import WindowDoc.Load
import WindowDoc.Proofs.Printing

namespace WindowDoc

open Grammar

-- Every string that is read fits between quotes.
theorem Lexemes.quotable_of_mem {ls : List Lexeme} {cursor : Cursor}
    (h : (ofCursor cursor).BeginsWith ls) {content : String}
    (hmem : Token.string content ∈ ls.map Lexeme.token) : Quotable content := by
  induction ls generalizing cursor with
  | nil => cases hmem
  | cons l ls ih =>
      obtain ⟨rest, hrest⟩ := h
      rw [ofCursor_eq, prepend, List.foldr_cons] at hrest
      split at hrest
      · cases hrest
      · rename_i lexeme after hnext
        split at hrest
        · cases hrest
        · obtain ⟨rfl, htail⟩ := Lexemes.cons.inj hrest
          rw [List.map_cons, List.mem_cons] at hmem
          cases hmem with
          | inl hhead =>
              have hscan := (Cursor.scan_of_next hnext).1
              rw [← hhead] at hscan
              exact Scan.quotable_of_ofText hscan
          | inr hlater => exact ih ⟨rest, htail⟩ hlater

-- Whatever a text derives is well formed, since its strings were read.

mutual

theorem Grammar.Element.wellFormed : (e : Element) →
    (∀ content, Token.string content ∈ e.tokens → Quotable content) → e.widget.WellFormed
  | .button caption, h => by
      rw [widget, Widget.WellFormed]
      exact h caption (by simp [tokens, phrase])
  | .label text, h => by
      rw [widget, Widget.WellFormed]
      exact h text (by simp [tokens, phrase])
  | .textField columns, _ => trivial
  | .group first others, h => by
      refine ⟨List.cons_ne_nil _ _, fun label hlabel => h label ?_⟩
      have hradios : Token.string label ∈ (first :: others).flatMap radio :=
        List.mem_flatMap.mpr ⟨label, hlabel, by simp [radio, phrase]⟩
      exact List.mem_append_left _ (List.mem_append_right _ hradios)
  | .panel arrangement first others, h => by
      refine ⟨List.cons_ne_nil _ _, ?_, ?_⟩
      · exact first.wellFormed fun content hmem => h content (by simp [tokens, hmem])
      · exact Element.wellFormedAll others fun content hmem => h content (by simp [tokens, hmem])

theorem Grammar.Element.wellFormedAll : (es : List Element) →
    (∀ content, Token.string content ∈ tokensAll es → Quotable content) →
    Widget.WellFormedAll (widgets es)
  | [], _ => trivial
  | e :: es, h =>
      ⟨e.wellFormed fun content hmem => h content (List.mem_append_left _ hmem),
        Element.wellFormedAll es fun content hmem => h content (List.mem_append_right _ hmem)⟩

end

theorem Grammar.Document.wellFormed {limit : Nat} {d : Document}
    (h : ∀ content, Token.string content ∈ d.tokens → Quotable content)
    (hdepth : d.window.depth ≤ limit) : d.window.WellFormed limit where
  title := h d.title (by simp [tokens])
  children_ne_nil := List.cons_ne_nil _ _
  children := ⟨d.first.wellFormed fun content hmem => h content (by simp [tokens, hmem]),
    Element.wellFormedAll d.others fun content hmem => h content (by simp [tokens, hmem])⟩
  depth_le := hdepth

theorem Grammar.Document.wellFormed_of_beginsWith {limit : Nat} {source : String}
    {ls : List Lexeme} (d : Document) (hbegins : (Lexemes.ofText source).BeginsWith ls)
    (htokens : d.tokens = ls.map Lexeme.token) (hdepth : d.window.depth ≤ limit) :
    d.window.WellFormed limit := by
  refine Document.wellFormed (fun content hmem => ?_) hdepth
  rw [htokens] at hmem
  exact Lexemes.quotable_of_mem hbegins hmem

mutual

theorem Widget.WellFormed.groupsFilled : {widget : Widget} → widget.WellFormed →
    widget.GroupsFilled
  | .button _, _ | .label _, _ | .textField _, _ => trivial
  | .panel _ _, h => Widget.WellFormedAll.groupsFilled h.2
  | .radioGroup _, h => h.1

theorem Widget.WellFormedAll.groupsFilled : {widgets : List Widget} → WellFormedAll widgets →
    GroupsFilledAll widgets
  | [], _ => trivial
  | _ :: _, h => ⟨h.1.groupsFilled, Widget.WellFormedAll.groupsFilled h.2⟩

end

theorem value_parseWindow_eq (options : Options) (source : String) :
    (parseWindow options source).value =
      Assembler.harvest none (parse Assembler.renderer options source .empty).value := rfl

theorem parseWindow_of_error {options : Options} {source : String} {fault : Fault}
    (h : (Reading.ofText options.maxNesting source).result = .error fault) :
    (parseWindow options source).value = .error (.unparsed none fault) := by
  rw [value_parseWindow_eq, Assembler.harvest, result_parse, h]

-- A text that derives a document gives the window that the document describes.
theorem value_parseWindow {options : Options} {source : String} {ls : List Lexeme} {d : Document}
    (hbegins : (Lexemes.ofText source).BeginsWith ls) (htokens : d.tokens = ls.map Lexeme.token)
    (hdepth : d.window.depth ≤ options.maxNesting) :
    (parseWindow options source).value = .ok d.window := by
  have hresult : (Reading.ofText options.maxNesting source).result = .ok () :=
    (Reading.result_ofText_eq_ok_iff _ _).mpr ⟨ls, hbegins, Document.derivable htokens hdepth⟩
  have hfilled := (d.wellFormed_of_beginsWith hbegins htokens hdepth).children.groupsFilled
  have hstate := state_parse_of_ok Assembler.renderer .empty hresult
  rw [Reading.events_ofText hbegins htokens hdepth,
    Assembler.state_performAll_window Assembler.pendingNumbered_empty _ hfilled] at hstate
  simp only [value_parseWindow_eq, Assembler.harvest, result_parse, hresult, Assembler.lastWindow?,
    hstate, Array.back?_push]

theorem exists_parseWindow {options : Options} {source : String}
    (h : (Reading.ofText options.maxNesting source).result = .ok ()) :
    ∃ ls, ∃ d : Document, (Lexemes.ofText source).BeginsWith ls ∧
      d.tokens = ls.map Lexeme.token ∧ d.window.depth ≤ options.maxNesting ∧
      (parseWindow options source).value = .ok d.window := by
  obtain ⟨ls, hbegins, hderivable⟩ := (Reading.result_ofText_eq_ok_iff _ _).mp h
  obtain ⟨d, htokens, hdepth⟩ := hderivable.exists_document
  exact ⟨ls, d, hbegins, htokens, hdepth, value_parseWindow hbegins htokens hdepth⟩

theorem parseWindow_eq_ok_iff (options : Options) (source : String) (w : Window) :
    (parseWindow options source).value = .ok w ↔ ∃ ls, ∃ d : Document,
      (Lexemes.ofText source).BeginsWith ls ∧ d.tokens = ls.map Lexeme.token ∧
        d.window.depth ≤ options.maxNesting ∧ d.window = w := by
  constructor
  · intro h
    have hresult : (Reading.ofText options.maxNesting source).result = .ok () := by
      cases hread : (Reading.ofText options.maxNesting source).result with
      | ok _ => rfl
      | error fault =>
          rw [parseWindow_of_error hread] at h
          cases h
    obtain ⟨ls, d, hbegins, htokens, hdepth, hwindow⟩ := exists_parseWindow hresult
    rw [hwindow] at h
    exact ⟨ls, d, hbegins, htokens, hdepth, Except.ok.inj h⟩
  · rintro ⟨ls, d, hbegins, htokens, hdepth, rfl⟩
    exact value_parseWindow hbegins htokens hdepth

-- An accepted text is drawn as its window is, and that window could have been printed.
theorem reading_of_parseWindow {options : Options} {source : String} {w : Window}
    (h : (parseWindow options source).value = .ok w) :
    (Reading.ofText options.maxNesting source).result = .ok () ∧
      (Reading.ofText options.maxNesting source).events = w.events ∧
      w.WellFormed options.maxNesting := by
  obtain ⟨ls, d, hbegins, htokens, hdepth, rfl⟩ := (parseWindow_eq_ok_iff options source w).mp h
  refine ⟨?_, Reading.events_ofText hbegins htokens hdepth,
    d.wellFormed_of_beginsWith hbegins htokens hdepth⟩
  exact (Reading.result_ofText_eq_ok_iff _ _).mpr ⟨ls, hbegins, Document.derivable htokens hdepth⟩

-- What is printed for a well formed window is read as that window.
theorem Window.WellFormed.parseWindow_source (options : Options) {w : Window}
    (h : w.WellFormed options.maxNesting) : (parseWindow options w.source).value = .ok w := by
  obtain ⟨d, rfl, hspells⟩ := Window.exists_document h
  obtain ⟨ls, hls, hlexemes⟩ := hspells .start []
  rw [List.append_nil] at hlexemes
  exact value_parseWindow ⟨_, hlexemes⟩ hls.symm h.depth_le

-- Printing a window and reading it back gives the window again just if it is well formed.
theorem parseWindow_source_iff (options : Options) (w : Window) :
    (parseWindow options w.source).value = .ok w ↔ w.WellFormed options.maxNesting := by
  rw [parseWindow_eq_ok_iff]
  constructor
  · rintro ⟨ls, d, hbegins, htokens, hdepth, rfl⟩
    apply Document.wellFormed _ hdepth
    intro content hmem
    rw [htokens] at hmem
    exact Lexemes.quotable_of_mem hbegins hmem
  · intro h
    obtain ⟨d, rfl, hspells⟩ := Window.exists_document h
    obtain ⟨ls, hls, hlexemes⟩ := hspells .start []
    rw [List.append_nil] at hlexemes
    exact ⟨ls, d, ⟨_, hlexemes⟩, hls.symm, h.depth_le, rfl⟩

end WindowDoc
