import WindowDoc.Proofs.Grammar.Reading

namespace WindowDoc

namespace Lexemes

-- The lexemes that are read first, without an error before or among them.
def BeginsWith (lx : Lexemes) (ls : List Lexeme) : Prop := ∃ rest, lx = prepend ls rest

theorem BeginsWith.split {lx : Lexemes} {ls ms : List Lexeme} (h : lx.BeginsWith ls)
    (h' : lx.BeginsWith ms) : (∃ more, ms = ls ++ more) ∨ ∃ more, ls = ms ++ more := by
  induction ls generalizing lx ms with
  | nil => exact .inl ⟨ms, rfl⟩
  | cons l ls ih =>
      cases ms with
      | nil => exact .inr ⟨l :: ls, rfl⟩
      | cons m ms =>
          obtain ⟨rest, rfl⟩ := h
          obtain ⟨rest', hrest⟩ := h'
          obtain ⟨rfl, htail⟩ := Lexemes.cons.inj hrest
          obtain ⟨more, rfl⟩ | ⟨more, rfl⟩ := ih ⟨rest, rfl⟩ ⟨rest', htail⟩
          · exact .inl ⟨more, rfl⟩
          · exact .inr ⟨more, rfl⟩

end Lexemes

namespace Grammar

theorem map_kind_eq (ls : List Lexeme) :
    ls.map Lexeme.kind = (ls.map Lexeme.token).map Token.kind := by
  rw [List.map_map]
  rfl

-- The derivation of lexemes, with the strings and numbers that they bring.
theorem Derivable.exists_document {limit : Nat} {ls : List Lexeme}
    (h : Derivable limit (ls.map Lexeme.kind)) :
    ∃ d : Document, d.tokens = ls.map Lexeme.token ∧ d.window.depth ≤ limit := by
  obtain ⟨d, hkinds, hdepth⟩ := h
  obtain ⟨d', htokens, hsame⟩ := d.exists_of_kinds ((map_kind_eq ls).symm.trans hkinds.symm)
  exact ⟨d', htokens.symm, hsame ▸ hdepth⟩

theorem Document.derivable {limit : Nat} {d : Document} {ls : List Lexeme}
    (htokens : d.tokens = ls.map Lexeme.token) (hdepth : d.window.depth ≤ limit) :
    Derivable limit (ls.map Lexeme.kind) :=
  ⟨d, by rw [kinds, htokens, map_kind_eq], hdepth⟩

-- A document ends with a period.
theorem Document.exists_last {d : Document} {ls : List Lexeme}
    (h : d.tokens = ls.map Lexeme.token) :
    ∃ front last, ls = front ++ [last] ∧ last.token = .period := by
  obtain ⟨front, close, rfl, -, hclose⟩ := List.map_eq_append_iff.mp h.symm
  obtain ⟨l, ls, rfl, -, hlast⟩ := List.map_eq_cons_iff.mp hclose
  obtain ⟨last, rfl, hperiod⟩ := List.map_eq_singleton_iff.mp hlast
  exact ⟨front ++ [l], last, by simp, hperiod⟩

theorem Derivable.isProgram {limit : Nat} {kinds : List Kind} (h : Derivable limit kinds) :
    IsProgram kinds := by
  obtain ⟨d, hkinds, -⟩ := h
  exact ⟨d, hkinds⟩

theorem IsProgram.exists_document {ls : List Lexeme} (h : IsProgram (ls.map Lexeme.kind)) :
    ∃ d : Document, d.tokens = ls.map Lexeme.token := by
  obtain ⟨d, hkinds⟩ := h
  obtain ⟨d', htokens, -⟩ := Derivable.exists_document ⟨d, hkinds, Nat.le_refl _⟩
  exact ⟨d', htokens⟩

-- Lexemes make up a program in one way at most, and with no lexeme more or less.
theorem IsProgram.eq_of_append {ls more : List Lexeme} (h : IsProgram (ls.map Lexeme.kind))
    (h' : IsProgram ((ls ++ more).map Lexeme.kind)) : more = [] := by
  obtain ⟨d, hd⟩ := h.exists_document
  obtain ⟨d', hd'⟩ := h'.exists_document
  have htokens : d.tokens ++ more.map Lexeme.token = d'.tokens ++ [] := by
    rw [List.append_nil, hd, hd', List.map_append]
  exact List.map_eq_nil_iff.mp (Document.tokens_append_inj htokens).2

end Grammar

open Grammar

-- A text begins with one program at most.
theorem Lexemes.BeginsWith.eq_of_isProgram {lx : Lexemes} {ls ls' : List Lexeme}
    (hbegins : lx.BeginsWith ls) (hbegins' : lx.BeginsWith ls')
    (hprogram : IsProgram (ls.map Lexeme.kind)) (hprogram' : IsProgram (ls'.map Lexeme.kind)) :
    ls = ls' := by
  obtain ⟨more, rfl⟩ | ⟨more, rfl⟩ := hbegins.split hbegins'
  · rw [hprogram.eq_of_append hprogram', List.append_nil]
  · rw [hprogram'.eq_of_append hprogram, List.append_nil]

theorem Reading.result_ofText_eq_ok_iff (limit : Nat) (source : String) :
    (Reading.ofText limit source).result = .ok () ↔
      ∃ ls, (Lexemes.ofText source).BeginsWith ls ∧ Derivable limit (ls.map Lexeme.kind) := by
  rw [Reading.ofText, Lexemes.result_eq_ok_iff]
  constructor
  · rintro ⟨ls, rest, hlx, haccepts⟩
    obtain ⟨d, htokens, hdepth⟩ := (accepts_iff limit _).mp haccepts
    exact ⟨ls, ⟨rest, hlx⟩, Document.derivable htokens.symm hdepth⟩
  · rintro ⟨ls, ⟨rest, hlx⟩, hderivable⟩
    obtain ⟨d, htokens, hdepth⟩ := hderivable.exists_document
    exact ⟨ls, rest, hlx, (accepts_iff limit _).mpr ⟨d, htokens.symm, hdepth⟩⟩

-- What a renderer is told of a document that is read to its end.
theorem Reading.events_ofText {limit : Nat} {source : String} {ls : List Lexeme} {d : Document}
    (hbegins : (Lexemes.ofText source).BeginsWith ls) (htokens : d.tokens = ls.map Lexeme.token)
    (hdepth : d.window.depth ≤ limit) :
    (Reading.ofText limit source).events = d.window.events := by
  obtain ⟨rest, hlx⟩ := hbegins
  rw [Reading.ofText, hlx]
  exact (d.reading hdepth htokens.symm rest).2

-- A document recorded from the beginning, as it is read.
def recorded (limit : Nat) (source : String) : Outcome Recording :=
  (parse Recording.renderer ⟨.streaming, limit⟩ source .empty).value

theorem calls_recorded {limit : Nat} {source : String} {w : Window}
    (h : (Reading.ofText limit source).events = w.events) :
    (recorded limit source).state.calls.toList = w.calls 0 0 := by
  rw [recorded, value_parse_streaming, state_parseStreaming, h, Recording.state_performAll_window]
  simp [Recording.extend, Recording.empty]

-- A document is accepted just if its lexemes begin with a program, and then it is clear with
-- which one. What is recorded are the calls for the window that the program describes, with
-- containers and groups numbered from zero as they are made.
theorem recorded_derivation (limit : Nat) (source : String) :
    ((recorded limit source).result = .ok () ↔
      ∃ ls, (Lexemes.ofText source).BeginsWith ls ∧ Derivable limit (ls.map Lexeme.kind)) ∧
    (∀ ls ls', (Lexemes.ofText source).BeginsWith ls → (Lexemes.ofText source).BeginsWith ls' →
      IsProgram (ls.map Lexeme.kind) → IsProgram (ls'.map Lexeme.kind) → ls = ls') ∧
    ∀ ls, (Lexemes.ofText source).BeginsWith ls → Derivable limit (ls.map Lexeme.kind) →
      (∃ front last, ls = front ++ [last] ∧ last.token = .period) ∧
      ∃ d : Document, d.tokens = ls.map Lexeme.token ∧
        (∀ d' : Document, d'.tokens = ls.map Lexeme.token → d' = d) ∧
        (recorded limit source).state.calls.toList = d.window.calls 0 0 ∧
        (recorded limit source).state.calls.toList.filterMap Call.container? =
          (List.range (Widget.panelsAll d.window.children + 1)).map ContainerId.mk ∧
        (recorded limit source).state.calls.toList.filterMap Call.group? =
          (List.range (Widget.groupsAll d.window.children)).map GroupId.mk := by
  refine ⟨?_, ?_, ?_⟩
  · rw [recorded, result_parse]
    exact Reading.result_ofText_eq_ok_iff limit source
  · intro ls ls' hbegins hbegins' hprogram hprogram'
    exact hbegins.eq_of_isProgram hbegins' hprogram hprogram'
  · intro ls hbegins hderivable
    obtain ⟨d, htokens, hdepth⟩ := hderivable.exists_document
    have hcalls := calls_recorded (Reading.events_ofText hbegins htokens hdepth)
    refine ⟨Document.exists_last htokens, d, htokens, ?_, hcalls, ?_, ?_⟩
    · intro d' htokens'
      have hsame : d'.tokens ++ [] = d.tokens ++ [] := by rw [htokens, htokens']
      exact (Document.tokens_append_inj hsame).1
    · rw [hcalls, Window.containers_calls, List.range_eq_range']
    · rw [hcalls, Window.groups_calls, List.range_eq_range']

end WindowDoc
