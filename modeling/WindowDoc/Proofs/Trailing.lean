import WindowDoc.Proofs.Cutting
import WindowDoc.Proofs.RoundTrip
import WindowDoc.Proofs.Segmentation.Theorems

namespace WindowDoc

open Grammar

namespace Segmentation

variable {cs : List Char} {pieces : List Piece} {close : Close}

-- The text that pieces are cut from.
def written (pieces : List Piece) : List Char :=
  pieces.flatMap fun piece => piece.skipped ++ piece.text

namespace Segments

theorem exists_rest {more : List Piece} (h : Segments cs (pieces ++ more) close) :
    ∃ rest, cs = written pieces ++ rest ∧ Segments rest more close := by
  induction pieces generalizing cs with
  | nil => exact ⟨cs, rfl, h⟩
  | cons piece pieces ih =>
      cases h with
      | piece htrivia hspelled hrest =>
          obtain ⟨rest, rfl, hmore⟩ := ih hrest
          exact ⟨rest, by simp [written], hmore⟩

theorem spelled (h : Segments cs pieces close) :
    ∀ piece ∈ pieces, ∃ rest, Spelled rest piece.text piece.token := by
  induction h with
  | ended | stopped => simp
  | piece _ hspelled _ ih => exact List.forall_mem_cons.mpr ⟨⟨_, hspelled⟩, ih⟩

theorem length_text_pos (h : Segments cs pieces close) {piece : Piece} (hpiece : piece ∈ pieces) :
    0 < piece.text.length := by
  obtain ⟨rest, hspelled⟩ := h.spelled piece hpiece
  obtain ⟨c, more, htext, -⟩ := hspelled.exists_begin
  simp [htext]

-- The first pieces are what is read first.

theorem exists_pieces (h : Segments cs pieces close) {ls : List Lexeme} {p : Position}
    (hbegins : (Lexemes.ofCursor ⟨p, cs⟩).BeginsWith ls) :
    ∃ front more, pieces = front ++ more ∧ lexemes p front = ls := by
  induction h generalizing p ls with
  | ended htrivia =>
      obtain ⟨rest, hlx⟩ := hbegins
      rw [htrivia.ofCursor_nil] at hlx
      cases ls with
      | nil => exact ⟨[], [], rfl, rfl⟩
      | cons l ls => cases hlx
  | stopped htrivia hstuck =>
      obtain ⟨rest, hlx⟩ := hbegins
      rw [hstuck.ofCursor htrivia] at hlx
      cases ls with
      | nil => exact ⟨[], [], rfl, rfl⟩
      | cons l ls => cases hlx
  | @piece skipped text rest token pieces close htrivia hspelled _ ih =>
      obtain ⟨left, hlx⟩ := hbegins
      rw [hspelled.ofCursor htrivia] at hlx
      cases ls with
      | nil => exact ⟨[], _, rfl, rfl⟩
      | cons l ls =>
          obtain ⟨rfl, hrest⟩ := Lexemes.cons.inj hlx
          obtain ⟨front, more, rfl, hfront⟩ := ih ⟨left, hrest⟩
          exact ⟨⟨skipped, text, token⟩ :: front, more, rfl, by rw [lexemes, hfront]⟩

-- The last END and the period behind it stay, whatever comes then: a keyword ends before a blank, a
-- slash or a period.
theorem closing {e d : Piece} {more more' : List Piece} {close' : Close} {other : List Char}
    (h : Segments cs (e :: d :: more) close) (he : e.token = .keyword .finish)
    (hd : d.token = .period) (hother : Segments other more' close') :
    Segments (written [e, d] ++ other) (e :: d :: more') close' := by
  cases h with
  | @piece skipped text _ token _ _ htrivia hspelled hrest =>
      cases hrest with
      | @piece skipped' text' rest token' _ _ htrivia' hspelled' _ =>
          obtain rfl : token = .keyword .finish := he
          obtain rfl : token' = .period := hd
          have hperiod : Spelled other text' .period := by
            cases hspelled' with
            | mark hmark => exact .mark hmark
          obtain ⟨c, tail, rfl, -⟩ := hspelled'.exists_begin
          have hhead : (skipped' ++ (c :: tail ++ other)).head? =
              (skipped' ++ (c :: tail ++ rest)).head? := by
            cases skipped' <;> rfl
          have hend : Spelled (skipped' ++ (c :: tail ++ other)) text (.keyword .finish) := by
            cases hspelled with
            | mark hmark => simp [marks] at hmark
            | keyword hc hword hend hspelling =>
                exact .keyword hc hword (by rwa [hhead]) hspelling
          have hwritten : written [⟨skipped, text, .keyword .finish⟩,
              ⟨skipped', c :: tail, .period⟩] ++ other =
              skipped ++ (text ++ (skipped' ++ (c :: tail ++ other))) := by
            simp [written]
          rw [hwritten]
          refine .piece (htrivia.of_head ?_) hend (.piece (htrivia'.of_head rfl) hperiod hother)
          rw [List.head?_append, hhead, ← List.head?_append]

theorem goOn {front : List Piece} {e d : Piece} {more more' : List Piece} {close' : Close}
    {other : List Char} (h : Segments cs (front ++ e :: d :: more) close)
    (he : e.token = .keyword .finish) (hd : d.token = .period)
    (hother : Segments other more' close') :
    Segments (written (front ++ [e, d]) ++ other) (front ++ e :: d :: more') close' := by
  induction front generalizing cs with
  | nil => exact h.closing he hd hother
  | cons piece front ih =>
      cases h with
      | @piece skipped text rest token _ _ htrivia hspelled hrest =>
          have hlength : 2 ≤ (written (front ++ [e, d])).length := by
            have hpos : 0 < e.text.length := hrest.length_text_pos (by simp)
            have hpos' : 0 < d.text.length := hrest.length_text_pos (by simp)
            simp only [written, List.flatMap_append, List.flatMap_cons, List.flatMap_nil,
              List.append_nil, List.length_append]
            omega
          have hsplit : Segments rest (front ++ [e, d] ++ more) close := by
            rw [List.append_assoc]
            exact hrest
          have hnext := ih hrest
          obtain ⟨left, rfl, -⟩ := hsplit.exists_rest
          have hwritten : written (⟨skipped, text, token⟩ :: front ++ [e, d]) ++ other =
              skipped ++ (text ++ (written (front ++ [e, d]) ++ other)) := by
            simp [written]
          rw [hwritten]
          refine .piece (htrivia.of_head ?_) (hspelled.of_ends (.of_two_le hlength left other)) hnext
          obtain ⟨c, tail, rfl, -⟩ := hspelled.exists_begin
          rfl

end Segments

-- The pieces that a text begins with and that make up a program.
structure Opens (cs : List Char) (pieces : List Piece) : Prop where
  begins : ∃ more close, Segments cs (pieces ++ more) close
  program : IsProgram (pieces.map fun piece => piece.token.kind)

namespace Opens

theorem exists_end (h : Opens cs pieces) :
    ∃ front e d, pieces = front ++ [e, d] ∧ e.token = .keyword .finish ∧ d.token = .period := by
  obtain ⟨d, hkinds⟩ := h.program
  rw [Document.kinds, Document.tokens, List.map_append] at hkinds
  obtain ⟨front, back, rfl, -, hback⟩ := List.map_eq_append_iff.mp hkinds.symm
  obtain ⟨e, back, rfl, he, hlast⟩ := List.map_eq_cons_iff.mp hback
  obtain ⟨d, rfl, hd⟩ := List.map_eq_singleton_iff.mp hlast
  exact ⟨front, e, d, rfl, kind_eq_keyword_iff.mp he, kind_eq_mark_iff.2.2.2.1.mp hd⟩

-- A program is no beginning of another one.
theorem unique {others : List Piece} (h : Opens cs pieces) (h' : Opens cs others) :
    others = pieces := by
  have hnil {front more : List Piece} (hfront : IsProgram (front.map fun piece => piece.token.kind))
      (hall : IsProgram ((front ++ more).map fun piece => piece.token.kind)) : more = [] := by
    let lexeme (piece : Piece) : Lexeme := ⟨piece.token, .start⟩
    have hkinds (pieces : List Piece) : (pieces.map lexeme).map Lexeme.kind =
        pieces.map fun piece => piece.token.kind := List.map_map
    rw [← hkinds] at hfront hall
    rw [List.map_append] at hall
    exact List.map_eq_nil_iff.mp (hfront.eq_of_append hall)
  obtain ⟨more, close, hcs⟩ := h.begins
  obtain ⟨more', close', hcs'⟩ := h'.begins
  obtain ⟨extra, rfl, -⟩ | ⟨extra, rfl, -⟩ := List.append_eq_append_iff.mp (hcs.unique hcs').1
  · rw [hnil h.program h'.program, List.append_nil]
  · rw [hnil h'.program h.program, List.append_nil]

-- The pieces stay, whatever is put behind them.
theorem goOn (h : Opens cs pieces) (other : List Char) : Opens (written pieces ++ other) pieces := by
  obtain ⟨front, e, d, rfl, he, hd⟩ := h.exists_end
  obtain ⟨more, close, hcs⟩ := h.begins
  obtain ⟨more', close', hother⟩ := exists_segments other
  rw [List.append_assoc] at hcs
  refine ⟨⟨more', close', ?_⟩, h.program⟩
  rw [List.append_assoc]
  exact hcs.goOn he hd hother

end Opens

end Segmentation

open Segmentation

end WindowDoc
