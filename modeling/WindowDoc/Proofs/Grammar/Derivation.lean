import WindowDoc.Proofs.Outline
import WindowDoc.Token

namespace WindowDoc.Grammar

-- The grammar, with a type for each rule that has alternatives or nests. A value of such a type
-- is a derivation: its constructors say which alternatives were taken, and its data are the
-- strings and numbers that the grammar leaves open. Its tokens are what it derives.

-- FLOW | GRID ( number , number [, number , number] )
inductive Arrangement where
  | flow
  | grid (rows columns : Double) (gaps : Option (Double × Double))

-- BUTTON string ; | LABEL string ; | TEXTFIELD number ; | GROUP radio+ END ;
-- | PANEL LAYOUT arrangement : element+ END ;
inductive Element where
  | button (caption : String)
  | label (text : String)
  | textField (columns : Double)
  | group (first : String) (others : List String)
  | panel (arrangement : Arrangement) (first : Element) (others : List Element)

-- WINDOW string ( number , number ) LAYOUT arrangement : element+ END .
structure Document where
  title : String
  width : Double
  height : Double
  arrangement : Arrangement
  first : Element
  others : List Element

namespace Arrangement

def tokens : Arrangement → List Token
  | flow => [.keyword .flow]
  | grid rows columns none =>
      [.keyword .grid, .openParen, .number rows, .comma, .number columns, .closeParen]
  | grid rows columns (some (horizontal, vertical)) =>
      [.keyword .grid, .openParen, .number rows, .comma, .number columns, .comma,
        .number horizontal, .comma, .number vertical, .closeParen]

def layout : Arrangement → Layout
  | flow => .flow
  | grid rows columns none => .grid rows.toInt32 columns.toInt32 none
  | grid rows columns (some (horizontal, vertical)) =>
      .grid rows.toInt32 columns.toInt32 (some ⟨horizontal.toInt32, vertical.toInt32⟩)

-- The arrangement as a clause of its own.
def clause (arrangement : Arrangement) : List Token :=
  [.keyword .layout] ++ arrangement.tokens ++ [.colon]

end Arrangement

-- A keyword with one text.
def phrase (k : Keyword) (text : String) : List Token := [.keyword k, .string text, .semicolon]

def radio (label : String) : List Token := phrase .radio label

-- What closes a panel or a group.
def blockEnd : List Token := [.keyword .finish, .semicolon]

namespace Element

mutual

def tokens : Element → List Token
  | button caption => phrase .button caption
  | label text => phrase .label text
  | textField columns => [.keyword .textField, .number columns, .semicolon]
  | group first others => [.keyword .group] ++ (radio first ++ others.flatMap radio) ++ blockEnd
  | panel arrangement first others =>
      [.keyword .panel] ++ arrangement.clause ++ (first.tokens ++ tokensAll others) ++ blockEnd

def tokensAll : List Element → List Token
  | [] => []
  | element :: rest => element.tokens ++ tokensAll rest

end

mutual

-- The widget that the element describes.
def widget : Element → Widget
  | button caption => .button caption
  | label text => .label text
  | textField columns => .textField columns.toInt32
  | group first others => .radioGroup (first :: others)
  | panel arrangement first others => .panel arrangement.layout (first.widget :: widgets others)

def widgets : List Element → List Widget
  | [] => []
  | element :: rest => element.widget :: widgets rest

end

end Element

namespace Document

def tokens (d : Document) : List Token :=
  [.keyword .window, .string d.title, .openParen, .number d.width, .comma, .number d.height,
      .closeParen]
    ++ d.arrangement.clause ++ (d.first.tokens ++ Element.tokensAll d.others)
    ++ [.keyword .finish, .period]

def kinds (d : Document) : List Kind := d.tokens.map Token.kind

def window (d : Document) : Window :=
  ⟨d.title, d.width.toInt32, d.height.toInt32, d.arrangement.layout,
    d.first.widget :: Element.widgets d.others⟩

end Document

def IsProgram (kinds : List Kind) : Prop := ∃ d : Document, d.kinds = kinds

-- Derivable with panels nested at most `limit` deep.
def Derivable (limit : Nat) (kinds : List Kind) : Prop :=
  ∃ d : Document, d.kinds = kinds ∧ d.window.depth ≤ limit

-- Tokens determine their derivation, and a derivation is never a beginning of another one.

theorem Arrangement.clause_append_inj {a b : Arrangement} {ts us : List Token}
    (h : a.clause ++ ts = b.clause ++ us) : a = b ∧ ts = us := by
  obtain _ | ⟨r, c, _ | ⟨x, y⟩⟩ := a <;> obtain _ | ⟨r', c', _ | ⟨x', y'⟩⟩ := b <;>
    simp_all [Arrangement.clause, Arrangement.tokens]

theorem radios_append_inj {ls ms : List String} {ts us : List Token}
    (h : ls.flatMap radio ++ (blockEnd ++ ts) = ms.flatMap radio ++ (blockEnd ++ us)) :
    ls = ms ∧ ts = us := by
  induction ls generalizing ms with
  | nil => cases ms <;> simp_all [radio, phrase, blockEnd]
  | cons l ls ih =>
      cases ms with
      | nil => simp [radio, phrase, blockEnd] at h
      | cons m ms =>
          simp only [List.flatMap_cons, radio, phrase, List.cons_append, List.nil_append,
            List.cons.injEq, Token.string.injEq, true_and] at h
          obtain ⟨hlabels, hrest⟩ := ih h.2
          exact ⟨by rw [h.1, hlabels], hrest⟩

mutual

theorem Element.tokens_append_inj (e f : Element) {ts us : List Token}
    (h : e.tokens ++ ts = f.tokens ++ us) : e = f ∧ ts = us := by
  cases e with
  | button caption | label text | textField columns =>
      cases f <;> simp_all [Element.tokens, phrase]
  | group l ls =>
      cases f with
      | group m ms =>
          have hradios : (l :: ls).flatMap radio ++ (blockEnd ++ ts) =
              (m :: ms).flatMap radio ++ (blockEnd ++ us) := by
            simpa [Element.tokens] using h
          simpa using radios_append_inj hradios
      | _ => simp [Element.tokens, phrase] at h
  | panel a e es =>
      cases f with
      | panel b f fs =>
          simp only [Element.tokens, List.cons_append, List.nil_append, List.append_assoc,
            List.cons.injEq, true_and] at h
          obtain ⟨rfl, hfirst⟩ := Arrangement.clause_append_inj h
          obtain ⟨rfl, hothers⟩ := Element.tokens_append_inj e f hfirst
          obtain ⟨rfl, hrest⟩ := Element.tokensAll_append_inj es fs hothers
          exact ⟨rfl, by simpa using hrest⟩
      | _ => simp [Element.tokens, phrase] at h

-- No element begins with END, so elements stop where END stands.
theorem Element.tokensAll_append_inj (es fs : List Element) {ts us : List Token}
    (h : Element.tokensAll es ++ .keyword .finish :: ts =
      Element.tokensAll fs ++ .keyword .finish :: us) : es = fs ∧ ts = us := by
  cases es with
  | nil =>
      cases fs with
      | nil => simpa [Element.tokensAll] using h
      | cons f fs => cases f <;> simp [Element.tokensAll, Element.tokens, phrase] at h
  | cons e es =>
      cases fs with
      | nil => cases e <;> simp [Element.tokensAll, Element.tokens, phrase] at h
      | cons f fs =>
          simp only [Element.tokensAll, List.append_assoc] at h
          obtain ⟨rfl, hrest⟩ := Element.tokens_append_inj e f h
          obtain ⟨rfl, hafter⟩ := Element.tokensAll_append_inj es fs hrest
          exact ⟨rfl, hafter⟩

end

theorem Document.tokens_append_inj {d d' : Document} {ts us : List Token}
    (h : d.tokens ++ ts = d'.tokens ++ us) : d = d' ∧ ts = us := by
  obtain ⟨title, width, height, a, e, es⟩ := d
  obtain ⟨title', width', height', b, f, fs⟩ := d'
  simp only [Document.tokens, List.cons_append, List.nil_append, List.append_assoc,
    List.cons.injEq, Token.string.injEq, Token.number.injEq, true_and] at h
  obtain ⟨rfl, rfl, rfl, hclause⟩ := h
  obtain ⟨rfl, hfirst⟩ := Arrangement.clause_append_inj hclause
  obtain ⟨rfl, hothers⟩ := Element.tokens_append_inj e f hfirst
  obtain ⟨rfl, hrest⟩ := Element.tokensAll_append_inj es fs hothers
  exact ⟨rfl, by simpa using hrest⟩

-- Which derivation there is depends on the kinds of the tokens: the strings and numbers among
-- them can be any.

theorem kind_eq_string_iff {t : Token} : t.kind = .string ↔ ∃ content, t = .string content := by
  cases t <;> simp [Token.kind]

theorem kind_eq_number_iff {t : Token} : t.kind = .number ↔ ∃ value, t = .number value := by
  cases t <;> simp [Token.kind]

theorem kind_eq_keyword_iff {t : Token} {k : Keyword} :
    t.kind = .keyword k ↔ t = .keyword k := by
  cases t <;> simp [Token.kind]

theorem kind_eq_mark_iff {t : Token} :
    (t.kind = .comma ↔ t = .comma) ∧ (t.kind = .colon ↔ t = .colon) ∧
    (t.kind = .semicolon ↔ t = .semicolon) ∧ (t.kind = .period ↔ t = .period) ∧
    (t.kind = .openParen ↔ t = .openParen) ∧ (t.kind = .closeParen ↔ t = .closeParen) ∧
    (t.kind = .eof ↔ t = .eof) := by
  cases t <;> simp [Token.kind]

-- All other kinds have one token each.
theorem eq_of_kind_eq {t u : Token} (h : t.kind = u.kind)
    (hu : u.kind ≠ .string ∧ u.kind ≠ .number) : t = u := by
  cases t <;> cases u <;> simp_all [Token.kind]

-- The two halves of a list with the kinds of two lists.
theorem exists_append_of_kinds {ts us vs : List Token}
    (h : ts.map Token.kind = (us ++ vs).map Token.kind) :
    ∃ us' vs', ts = us' ++ vs' ∧ us'.map Token.kind = us.map Token.kind ∧
      vs'.map Token.kind = vs.map Token.kind := by
  rw [List.map_append] at h
  exact List.map_eq_append_iff.mp h

theorem eq_singleton_of_kinds {k : Keyword} {ts : List Token}
    (h : ts.map Token.kind = [Token.keyword k].map Token.kind) : ts = [.keyword k] := by
  simp only [List.map_cons, List.map_nil, Token.kind] at h
  simpa [List.map_eq_cons_iff, kind_eq_keyword_iff] using h

theorem eq_blockEnd_of_kinds {ts : List Token}
    (h : ts.map Token.kind = blockEnd.map Token.kind) : ts = blockEnd := by
  simp only [blockEnd, List.map_cons, List.map_nil, Token.kind] at h
  simpa [List.map_eq_cons_iff, kind_eq_keyword_iff, kind_eq_mark_iff, blockEnd] using h

theorem exists_phrase_of_kinds {k : Keyword} {text : String} {ts : List Token}
    (h : ts.map Token.kind = (phrase k text).map Token.kind) : ∃ other, ts = phrase k other := by
  simp only [phrase, List.map_cons, List.map_nil, Token.kind] at h
  simpa [List.map_eq_cons_iff, kind_eq_keyword_iff, kind_eq_string_iff, kind_eq_mark_iff,
    phrase] using h

theorem exists_radios_of_kinds {ls : List String} {ts : List Token}
    (h : ts.map Token.kind = (ls.flatMap radio).map Token.kind) :
    ∃ ms : List String, ts = ms.flatMap radio := by
  induction ls generalizing ts with
  | nil => exact ⟨[], by simpa using h⟩
  | cons l ls ih =>
      obtain ⟨us, vs, rfl, hfirst, hrest⟩ := exists_append_of_kinds h
      obtain ⟨m, rfl⟩ := exists_phrase_of_kinds hfirst
      obtain ⟨ms, rfl⟩ := ih hrest
      exact ⟨m :: ms, rfl⟩

theorem Arrangement.exists_clause_of_kinds (a : Arrangement) {ts : List Token}
    (h : ts.map Token.kind = a.clause.map Token.kind) : ∃ b : Arrangement, ts = b.clause := by
  obtain _ | ⟨r, c, _ | ⟨x, y⟩⟩ := a <;>
    simp only [clause, tokens, List.cons_append, List.nil_append, List.map_cons, List.map_nil,
      Token.kind] at h <;>
    simp [List.map_eq_cons_iff, kind_eq_number_iff, kind_eq_keyword_iff, kind_eq_mark_iff] at h
  · exact ⟨.flow, h⟩
  · obtain ⟨rows, columns, rfl⟩ := h
    exact ⟨.grid rows columns none, rfl⟩
  · obtain ⟨rows, columns, horizontal, vertical, rfl⟩ := h
    exact ⟨.grid rows columns (some (horizontal, vertical)), rfl⟩

mutual

theorem Element.exists_of_kinds (e : Element) {ts : List Token}
    (h : ts.map Token.kind = e.tokens.map Token.kind) :
    ∃ f : Element, ts = f.tokens ∧ f.widget.depth = e.widget.depth := by
  cases e with
  | button caption =>
      obtain ⟨other, rfl⟩ := exists_phrase_of_kinds h
      exact ⟨.button other, rfl, by simp only [widget, Widget.depth]⟩
  | label text =>
      obtain ⟨other, rfl⟩ := exists_phrase_of_kinds h
      exact ⟨.label other, rfl, by simp only [widget, Widget.depth]⟩
  | textField columns =>
      simp only [tokens, List.map_cons, List.map_nil, Token.kind] at h
      simp [List.map_eq_cons_iff, kind_eq_keyword_iff, kind_eq_number_iff, kind_eq_mark_iff] at h
      obtain ⟨value, rfl⟩ := h
      exact ⟨.textField value, rfl, by simp only [widget, Widget.depth]⟩
  | group first others =>
      obtain ⟨front, close, rfl, hfront, hclose⟩ := exists_append_of_kinds h
      obtain ⟨start, buttons, rfl, hstart, hbuttons⟩ := exists_append_of_kinds hfront
      obtain ⟨us, vs, rfl, hfirst, hothers⟩ := exists_append_of_kinds hbuttons
      obtain ⟨text, rfl⟩ := exists_phrase_of_kinds hfirst
      obtain ⟨texts, rfl⟩ := exists_radios_of_kinds hothers
      obtain rfl := eq_blockEnd_of_kinds hclose
      obtain rfl := eq_singleton_of_kinds hstart
      exact ⟨.group text texts, rfl, by simp only [widget, Widget.depth]⟩
  | panel arrangement first others =>
      obtain ⟨front, close, rfl, hfront, hclose⟩ := exists_append_of_kinds h
      obtain ⟨head, content, rfl, hhead, hcontent⟩ := exists_append_of_kinds hfront
      obtain ⟨start, clause, rfl, hstart, hclause⟩ := exists_append_of_kinds hhead
      obtain ⟨us, vs, rfl, hfirst, hothers⟩ := exists_append_of_kinds hcontent
      obtain rfl := eq_singleton_of_kinds hstart
      obtain ⟨layout, rfl⟩ := arrangement.exists_clause_of_kinds hclause
      obtain ⟨f, rfl, hdepth⟩ := Element.exists_of_kinds first hfirst
      obtain ⟨fs, rfl, hdepths⟩ := Element.exists_all_of_kinds others hothers
      obtain rfl := eq_blockEnd_of_kinds hclose
      refine ⟨.panel layout f fs, rfl, ?_⟩
      simp only [widget, Widget.depth, Widget.depthAll, hdepth, hdepths]

theorem Element.exists_all_of_kinds (es : List Element) {ts : List Token}
    (h : ts.map Token.kind = (tokensAll es).map Token.kind) :
    ∃ fs : List Element, ts = tokensAll fs ∧
      Widget.depthAll (widgets fs) = Widget.depthAll (widgets es) := by
  cases es with
  | nil => exact ⟨[], by simpa [tokensAll] using h, rfl⟩
  | cons e es =>
      obtain ⟨us, vs, rfl, hfirst, hrest⟩ := exists_append_of_kinds h
      obtain ⟨f, rfl, hdepth⟩ := Element.exists_of_kinds e hfirst
      obtain ⟨fs, rfl, hdepths⟩ := Element.exists_all_of_kinds es hrest
      refine ⟨f :: fs, rfl, ?_⟩
      rw [widgets, widgets, Widget.depthAll, Widget.depthAll, hdepth, hdepths]

end

-- A text with the kinds of a document is a document itself, with panels nested as deep.
theorem Document.exists_of_kinds (d : Document) {ts : List Token}
    (h : ts.map Token.kind = d.kinds) :
    ∃ d' : Document, ts = d'.tokens ∧ d'.window.depth = d.window.depth := by
  obtain ⟨front, close, rfl, hfront, hclose⟩ := exists_append_of_kinds h
  obtain ⟨head, content, rfl, hhead, hcontent⟩ := exists_append_of_kinds hfront
  obtain ⟨start, clause, rfl, hstart, hclause⟩ := exists_append_of_kinds hhead
  obtain ⟨us, vs, rfl, hfirst, hothers⟩ := exists_append_of_kinds hcontent
  obtain ⟨layout, rfl⟩ := d.arrangement.exists_clause_of_kinds hclause
  obtain ⟨f, rfl, hdepth⟩ := Element.exists_of_kinds d.first hfirst
  obtain ⟨fs, rfl, hdepths⟩ := Element.exists_all_of_kinds d.others hothers
  simp only [List.map_cons, List.map_nil, Token.kind] at hstart hclose
  simp [List.map_eq_cons_iff, kind_eq_keyword_iff, kind_eq_string_iff, kind_eq_number_iff,
    kind_eq_mark_iff] at hstart hclose
  obtain ⟨title, width, height, rfl⟩ := hstart
  subst hclose
  refine ⟨⟨title, width, height, layout, f, fs⟩, rfl, ?_⟩
  simp only [window, Window.depth, Widget.depthAll, hdepth, hdepths]

end WindowDoc.Grammar
