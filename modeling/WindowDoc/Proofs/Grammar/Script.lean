import WindowDoc.Proofs.Grammar.Theorems

namespace WindowDoc.Grammar

-- The tokens of a derivation, each with the call that it triggers if it does: the parenthesis
-- that closes the size of the window, the colon of a layout, the semicolon of a button, a label,
-- a text field or a radio button, the keywords that open a panel or a group, and the period.

-- Tokens that trigger nothing.
def silent (ts : List Token) : List (Token × Option Call) := ts.map fun token => (token, none)

-- A statement, which takes effect with its last token.
def statement (ts : List Token) (last : Token) (call : Call) : List (Token × Option Call) :=
  silent ts ++ [(last, some call)]

def Arrangement.script (home : ContainerId) (a : Arrangement) : List (Token × Option Call) :=
  statement ([.keyword .layout] ++ a.tokens) .colon (.setLayout home a.layout)

def radioScript (group : GroupId) (home : ContainerId) (label : String) :
    List (Token × Option Call) :=
  statement [.keyword .radio, .string label] .semicolon (.addRadioButton group home label)

namespace Element

mutual

-- The element goes into the container `home`, and `made` containers and `begun` groups were
-- numbered before.
def script (home : ContainerId) (made begun : Nat) : Element → List (Token × Option Call)
  | button caption =>
      statement [.keyword .button, .string caption] .semicolon (.addButton home caption)
  | label text => statement [.keyword .label, .string text] .semicolon (.addLabel home text)
  | textField columns =>
      statement [.keyword .textField, .number columns] .semicolon
        (.addTextField home columns.toInt32)
  | group first others =>
      statement [] (.keyword .group) (.beginRadioGroup ⟨begun⟩)
        ++ (radioScript ⟨begun⟩ home first ++ others.flatMap (radioScript ⟨begun⟩ home))
        ++ silent blockEnd
  | panel arrangement first others =>
      statement [] (.keyword .panel) (.beginPanel home ⟨made⟩) ++ arrangement.script ⟨made⟩
        ++ (first.script ⟨made⟩ (made + 1) begun
          ++ scriptAll ⟨made⟩ (made + 1 + first.widget.panels) (begun + first.widget.groups) others)
        ++ silent blockEnd

def scriptAll (home : ContainerId) (made begun : Nat) : List Element → List (Token × Option Call)
  | [] => []
  | element :: rest =>
      element.script home made begun
        ++ scriptAll home (made + element.widget.panels) (begun + element.widget.groups) rest

end

end Element

def Document.script (d : Document) : List (Token × Option Call) :=
  statement
      [.keyword .window, .string d.title, .openParen, .number d.width, .comma, .number d.height]
      .closeParen (.createWindow ⟨0⟩ d.title d.width.toInt32 d.height.toInt32)
    ++ d.arrangement.script ⟨0⟩
    ++ (d.first.script ⟨0⟩ 1 0
      ++ Element.scriptAll ⟨0⟩ (1 + d.first.widget.panels) d.first.widget.groups d.others)
    ++ statement [.keyword .finish] .period (.showWindow ⟨0⟩)

-- A script has the tokens of the derivation and the calls for what it describes.

@[simp] theorem map_fst_silent (ts : List Token) : (silent ts).map Prod.fst = ts := by
  simp [silent, Function.comp_def]

@[simp] theorem filterMap_silent (ts : List Token) : (silent ts).filterMap Prod.snd = [] := by
  simp [silent, List.filterMap_map]

@[simp] theorem map_fst_statement (ts : List Token) (last : Token) (call : Call) :
    (statement ts last call).map Prod.fst = ts ++ [last] := by
  simp [statement]

@[simp] theorem filterMap_statement (ts : List Token) (last : Token) (call : Call) :
    (statement ts last call).filterMap Prod.snd = [call] := by
  simp [statement]

@[simp] theorem Arrangement.map_fst_script (home : ContainerId) (a : Arrangement) :
    (a.script home).map Prod.fst = a.clause := by
  rw [script, map_fst_statement, clause]

@[simp] theorem Arrangement.filterMap_script (home : ContainerId) (a : Arrangement) :
    (a.script home).filterMap Prod.snd = [.setLayout home a.layout] := by
  rw [script, filterMap_statement]

theorem map_fst_radios (group : GroupId) (home : ContainerId) (labels : List String) :
    (labels.flatMap (radioScript group home)).map Prod.fst = labels.flatMap radio := by
  induction labels with
  | nil => rfl
  | cons label labels ih =>
      rw [List.flatMap_cons, List.map_append, ih, radioScript, map_fst_statement]
      rfl

theorem filterMap_radios (group : GroupId) (home : ContainerId) (labels : List String) :
    (labels.flatMap (radioScript group home)).filterMap Prod.snd =
      labels.map (.addRadioButton group home) := by
  induction labels with
  | nil => rfl
  | cons label labels ih =>
      rw [List.flatMap_cons, List.filterMap_append, ih, radioScript, filterMap_statement]
      rfl

mutual

theorem Element.map_fst_script (home : ContainerId) (made begun : Nat) : (e : Element) →
    (e.script home made begun).map Prod.fst = e.tokens
  | .button _ | .label _ | .textField _ => rfl
  | .group first others => by
      have hradios := map_fst_radios ⟨begun⟩ home (first :: others)
      rw [List.flatMap_cons, List.flatMap_cons] at hradios
      rw [script, List.map_append, List.map_append, hradios, map_fst_silent, map_fst_statement]
      rfl
  | .panel a e es => by
      rw [script, List.map_append, List.map_append, List.map_append, List.map_append,
        Element.map_fst_script _ _ _ e, Element.map_fst_scriptAll _ _ _ es, map_fst_silent,
        Arrangement.map_fst_script, map_fst_statement]
      rfl

theorem Element.map_fst_scriptAll (home : ContainerId) (made begun : Nat) :
    (es : List Element) → (scriptAll home made begun es).map Prod.fst = tokensAll es
  | [] => rfl
  | e :: es => by
      rw [scriptAll, List.map_append, Element.map_fst_script, Element.map_fst_scriptAll, tokensAll]

end

mutual

theorem Element.filterMap_script (home : ContainerId) (made begun : Nat) : (e : Element) →
    (e.script home made begun).filterMap Prod.snd = e.widget.calls home made begun
  | .button _ | .label _ | .textField _ => rfl
  | .group first others => by
      have hradios := filterMap_radios ⟨begun⟩ home (first :: others)
      rw [List.flatMap_cons] at hradios
      rw [script, List.filterMap_append, List.filterMap_append, hradios, filterMap_silent,
        filterMap_statement, List.append_nil, widget, Widget.calls]
  | .panel a e es => by
      rw [script, List.filterMap_append, List.filterMap_append, List.filterMap_append,
        List.filterMap_append, Element.filterMap_script _ _ _ e,
        Element.filterMap_scriptAll _ _ _ es, filterMap_silent, Arrangement.filterMap_script,
        filterMap_statement, List.append_nil, widget, Widget.calls, Widget.callsAll]
      rfl

theorem Element.filterMap_scriptAll (home : ContainerId) (made begun : Nat) :
    (es : List Element) →
    (scriptAll home made begun es).filterMap Prod.snd =
      Widget.callsAll home made begun (widgets es)
  | [] => rfl
  | e :: es => by
      rw [scriptAll, List.filterMap_append, Element.filterMap_script,
        Element.filterMap_scriptAll, widgets, Widget.callsAll]

end

namespace Document

theorem map_fst_script (d : Document) : d.script.map Prod.fst = d.tokens := by
  rw [script, List.map_append, List.map_append, List.map_append, List.map_append,
    Element.map_fst_script, Element.map_fst_scriptAll, Arrangement.map_fst_script,
    map_fst_statement, map_fst_statement]
  rfl

theorem filterMap_script (d : Document) :
    d.script.filterMap Prod.snd = d.window.calls 0 0 := by
  rw [script, List.filterMap_append, List.filterMap_append, List.filterMap_append,
    List.filterMap_append, Element.filterMap_script, Element.filterMap_scriptAll,
    Arrangement.filterMap_script, filterMap_statement, filterMap_statement, window, Window.calls,
    Widget.callsAll, Nat.zero_add, Nat.zero_add]
  rfl

end Document

end WindowDoc.Grammar
