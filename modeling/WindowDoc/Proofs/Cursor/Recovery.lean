import WindowDoc.Proofs.Cursor.Basic
import WindowDoc.Proofs.Segmentation.Literals

namespace WindowDoc

open Segmentation

namespace Cursor

variable {cursor : Cursor} {skipped taken : List Char}

-- What a question leaves, by its answer. `left` is the text behind the trivia.
structure Recovers (cursor : Cursor) (left : List Char) : Prop where
  lexeme : ∀ {token place}, cursor.next.1 = .ok ⟨token, place⟩ → token ≠ .eof →
    ∃ text, text ≠ [] ∧ left = text ++ cursor.next.2.rest
  unknownWord : ∀ {word place}, cursor.next.1 = .error ⟨.unknownWord word, place⟩ →
    left = word.toList ++ cursor.next.2.rest ∧
      (∃ c run, word.toList = c :: run ∧ Text.isAlphabetic c = true ∧
        ∀ d ∈ run, Text.isWordPart d = true) ∧
      cursor.next.2.rest.head?.any Text.isWordPart = false
  unterminatedString : ∀ {place}, cursor.next.1 = .error ⟨.unterminatedString, place⟩ →
    ∃ content, left = '"' :: content ++ cursor.next.2.rest ∧
      '"' ∉ content ∧ '\n' ∉ content ∧ EndsLine cursor.next.2.rest
  eof : ∀ {place}, cursor.next.1 = .ok ⟨.eof, place⟩ → left = [] ∧ cursor.next.2.rest = left
  unexpectedChar : ∀ {c place}, cursor.next.1 = .error ⟨.unexpectedChar c, place⟩ →
    left.head? = some c ∧ cursor.next.2.rest = left
  -- What is not taken is there for the next question, so that nothing changes any more.
  standstill : cursor.next.2.rest = left →
    ∀ count, cursor.next.2.moved count = cursor.next.2 ∧
      (cursor.next.2.moved count).next = cursor.next
  -- What begins like a number can be read as one, and is.
  number : Scan.beginsWithNumber left = true → ∃ l : Scan.Literal, ∃ place, l.WellFormed ∧
    Decimal.Text l.text ∧ left = l.text ++ cursor.next.2.rest ∧
    cursor.next.1 = .ok ⟨.number l.decimal.toDouble, place⟩

-- Where nothing is taken the next question is the same one.
theorem next_next {left : List Char} (htrivia : trivia false cursor.rest = (skipped, left))
    (hrest : cursor.next.2.rest = left) : cursor.next.2.next = cursor.next := by
  have hsolid : Solid left := by
    have hsolid := solid_trivia false cursor.rest
    rwa [htrivia] at hsolid
  have hscan : (Scan.ofText left).rest = left := by
    simpa only [next, htrivia] using hrest
  have htaken : (Scan.ofText left).taken = [] := by
    have hsplit := Scan.ofText_split left
    rw [hscan] at hsplit
    exact List.append_cancel_right (hsplit.trans (List.nil_append left).symm)
  have hafter : cursor.next.2 = ⟨cursor.position.after skipped, left⟩ := by
    simp only [next, htrivia, htaken, hscan]
    rfl
  rw [hafter]
  simp only [next, htrivia, trivia_of_solid hsolid]
  rfl

theorem moved_of_next_next (h : cursor.next.2.next = cursor.next) (count : Nat) :
    cursor.next.2.moved count = cursor.next.2 := by
  induction count with
  | zero => rfl
  | succ count ih => rw [moved_succ, ih, h]

theorem Reads.recovers (h : cursor.Reads skipped taken) :
    cursor.Recovers (taken ++ cursor.next.2.rest) where
  lexeme := fun hanswer htoken => ⟨taken, h.taken_ne_nil hanswer htoken, rfl⟩
  unknownWord := by
    intro word place hanswer
    have htakes := h.takes
    rw [hanswer, said] at htakes
    cases htakes with
    | word hc hrun hend =>
        rw [String.toList_ofList]
        exact ⟨rfl, ⟨_, _, rfl, hc, hrun⟩, hend⟩
  unterminatedString := by
    intro place hanswer
    have htakes := h.takes
    rw [hanswer, said] at htakes
    cases htakes with
    | @quote content hcontent hend =>
        refine ⟨content, rfl, fun hquote => ?_, fun hline => ?_, hend⟩
        · exact absurd (hcontent _ hquote) (by decide)
        · exact absurd (hcontent _ hline) (by decide)
  eof := by
    intro place hanswer
    obtain ⟨rfl, hrest⟩ := h.left_eq_nil hanswer rfl
    exact ⟨hrest, rfl⟩
  unexpectedChar := by
    intro c place hanswer
    have htakes := h.takes
    rw [hanswer, said] at htakes
    cases htakes with
    | character hrest =>
        rw [hrest]
        exact ⟨rfl, rfl⟩
  standstill := by
    intro hrest count
    have hsame := next_next (by rw [h.rest_eq, h.trivia.trivia_append h.solid]) hrest
    rw [moved_of_next_next hsame]
    exact ⟨rfl, hsame⟩
  number := by
    intro hbegins
    obtain ⟨text, rest, value, hleft, hspelled⟩ := exists_spelled_number hbegins
    have hscan := h.scan
    rw [hleft, hspelled.scan, Scan.mk.injEq] at hscan
    obtain ⟨rfl, hsaid, rfl⟩ := hscan
    obtain ⟨l, hl, rfl, rfl⟩ := hspelled.exists_literal
    cases hanswer : cursor.next.1 with
    | error e =>
        rw [hanswer] at hsaid
        cases hsaid
    | ok answer =>
        obtain ⟨token, place⟩ := answer
        rw [hanswer] at hsaid
        obtain rfl : _ = token := Except.ok.inj hsaid
        exact ⟨l, place, hl, text_of_wellFormed hl, rfl, rfl⟩

end Cursor

namespace Segmentation

-- Every piece has a character of its own.
theorem Segments.length_le {cs : List Char} {pieces : List Piece} {close : Close}
    (h : Segments cs pieces close) : pieces.length ≤ cs.length := by
  induction h with
  | ended | stopped => exact Nat.zero_le _
  | piece _ hspelled _ ih =>
      obtain ⟨c, more, rfl, -⟩ := hspelled.exists_begin
      simp only [List.length_append, List.length_cons]
      omega

theorem token_ne_eof {cs : List Char} {pieces : List Piece} {close : Close}
    (h : Segments cs pieces close) (p : Position) : ∀ l ∈ lexemes p pieces, l.token ≠ .eof := by
  induction h generalizing p with
  | ended | stopped => simp [lexemes]
  | piece _ hspelled _ ih => exact List.forall_mem_cons.mpr ⟨hspelled.ne_eof, ih _⟩

theorem token_last {pieces : List Piece} {close : Close} {p : Position} {lexeme : Lexeme}
    (h : last p pieces close = .ok lexeme) : lexeme.token = .eof := by
  cases close with
  | ended => rw [← Except.ok.inj h]
  | stopped => cases h

end Segmentation

namespace Cursor

-- A question takes a character of a lexeme, a word or a string at least, or it is the last one that
-- changes anything. So the text is read up after as many questions as it has characters and one
-- more. What is taken for a number is never refused by a reader of numbers.
theorem reading_progress (source : String) :
    (∀ count, ∃ skipped left, ((ofText source).moved count).rest = skipped ++ left ∧
      Trivia left skipped ∧ Solid left ∧ ((ofText source).moved count).Recovers left) ∧
    (∃ ls final, ls.length ≤ source.length ∧ (∀ l ∈ ls, l.token ≠ .eof) ∧
      (∀ l, final = .ok l → l.token = .eof) ∧
      (ofText source).answers (ls.length + 1) = ls.map .ok ++ [final] ∧
      (Lexemes.ofText source).toList = final.map fun l => ls ++ [l]) ∧
    ∀ (read : List Char → Option Double) (negative : Bool) (cs : List Char),
      Scan.beginsWithDigit cs = true →
      ((∀ text, Decimal.Text text → (read text).isSome = true) →
        ∃ value, (Scan.numberBy read negative cs).result = .ok (.number value)) ∧
      ((∀ l : Scan.Literal, l.WellFormed → read l.text = some l.decimal.toDouble) →
        Scan.numberBy read negative cs = Scan.number negative cs) := by
  refine ⟨fun count => ?_, ?_, fun read negative cs hbegins => ?_⟩
  · obtain ⟨skipped, taken, hreads⟩ := ((ofText source).moved count).exists_reads
    exact ⟨skipped, _, hreads.rest_eq, hreads.trivia, hreads.solid, hreads.recovers⟩
  · obtain ⟨pieces, close, hcs⟩ := exists_segments source.toList
    refine ⟨lexemes .start pieces, last .start pieces close, ?_, token_ne_eof hcs .start,
      fun l => token_last, ?_, hcs.toList .start⟩
    · rw [length_lexemes, ← String.length_toList]
      exact hcs.length_le
    · rw [length_lexemes]
      exact hcs.answers .start
  · constructor
    · intro hread
      exact exists_numberBy hread negative hbegins
    · intro hread
      exact numberBy_eq hread negative hbegins

-- A string that is not closed goes as far as its line, a word is left behind whole, and what begins
-- no lexeme is met again and again.
example : (ofText "\"a\nfoo %").answers 4 =
    [.error ⟨.unterminatedString, ⟨1, 1⟩⟩, .error ⟨.unknownWord "foo", ⟨2, 1⟩⟩,
      .error ⟨.unexpectedChar '%', ⟨2, 5⟩⟩, .error ⟨.unexpectedChar '%', ⟨2, 5⟩⟩] := by
  decide +kernel

end Cursor

end WindowDoc
