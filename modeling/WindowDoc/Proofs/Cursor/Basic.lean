import WindowDoc.Proofs.Segmentation.Theorems

namespace WindowDoc

namespace Segmentation

-- What an answer takes of a text at whose front there is neither a blank nor a comment, and where
-- it stops: an unknown word is taken whole, a string that is not closed up to the end of its line,
-- and what begins no lexeme stays.
inductive Takes (rest : List Char) : Except LexicalFault Token → List Char → Prop where
  | lexeme {text token} : Spelled rest text token → Takes rest (.ok token) text
  | ended : rest = [] → Takes rest (.ok .eof) []
  | word {c run} : Text.isAlphabetic c = true → (∀ d ∈ run, Text.isWordPart d = true) →
      rest.head?.any Text.isWordPart = false →
      Takes rest (.error (.unknownWord (String.ofList (c :: run)))) (c :: run)
  | quote {content} : (∀ c ∈ content, Scan.isContent c = true) → EndsLine rest →
      Takes rest (.error .unterminatedString) ('"' :: content)
  | character {c more} : rest = c :: more → Takes rest (.error (.unexpectedChar c)) []

theorem takes_string {cs : List Char} (h : (Scan.string cs).result = .error .unterminatedString) :
    Takes (Scan.string cs).rest (Scan.string cs).result (Scan.string cs).taken := by
  rw [h]
  simp only [Scan.string] at h ⊢
  split at h
  · cases h
  · rename_i hopen
    have hstop := Scan.head?_dropWhile_any Scan.isContent cs
    refine .quote (List.all_eq_true.mp List.all_takeWhile) fun c hc => ?_
    rw [hc, Option.any_some] at hstop
    obtain ⟨more, hmore⟩ := List.head?_eq_some_iff.mp hc
    by_contra hline
    obtain rfl : c = '"' := by simpa [Scan.isContent, hline] using hstop
    exact hopen more hmore

theorem takes_ofText (left : List Char) :
    Takes (Scan.ofText left).rest (Scan.ofText left).result (Scan.ofText left).taken := by
  cases left with
  | nil => exact .ended rfl
  | cons c cs =>
      cases hresult : (Scan.ofText (c :: cs)).result with
      | ok token => exact .lexeme (spelled_of_ofText hresult)
      | error fault =>
          generalize hleft : c :: cs = left at hresult
          have hblame : Blame left fault := by
            subst hleft
            exact blame_of_ofText hresult
          cases hblame with
          | word hc hrun hend =>
              rw [ofText_word hc hrun hend]
              exact .word hc hrun hend
          | @quote rest =>
              rw [← hresult]
              exact takes_string hresult
          | character =>
              rw [ofText_unexpected hresult rfl]
              exact .character rfl

end Segmentation

open Segmentation

namespace Cursor

-- The place after so many questions.
def moved : Nat → Cursor → Cursor
  | 0, cursor => cursor
  | count + 1, cursor => moved count cursor.next.2

theorem moved_succ (count : Nat) (cursor : Cursor) :
    cursor.moved (count + 1) = (cursor.moved count).next.2 := by
  induction count generalizing cursor with
  | zero => rfl
  | succ count ih => exact ih cursor.next.2

theorem moved_add (first second : Nat) (cursor : Cursor) :
    cursor.moved (first + second) = (cursor.moved first).moved second := by
  induction second with
  | zero => rfl
  | succ second ih => rw [← Nat.add_assoc, moved_succ, ih, moved_succ]

-- The place that an answer is about, and what it says of that.

def placed : Except LexicalError Lexeme → Position
  | .ok lexeme => lexeme.position
  | .error e => e.position

def said : Except LexicalError Lexeme → Except LexicalFault Token
  | .ok lexeme => .ok lexeme.token
  | .error e => .error e.fault

-- One question: the trivia that are skipped, and what is taken behind them.
structure Reads (cursor : Cursor) (skipped taken : List Char) : Prop where
  rest_eq : cursor.rest = skipped ++ (taken ++ cursor.next.2.rest)
  trivia : Trivia (taken ++ cursor.next.2.rest) skipped
  solid : Solid (taken ++ cursor.next.2.rest)
  scan : Scan.ofText (taken ++ cursor.next.2.rest) = ⟨taken, said cursor.next.1, cursor.next.2.rest⟩
  placed_eq : placed cursor.next.1 = cursor.position.after skipped
  position_eq : cursor.next.2.position = cursor.position.after (skipped ++ taken)

theorem exists_reads (cursor : Cursor) : ∃ skipped taken, cursor.Reads skipped taken := by
  have hsplit := Scan.ofText_split (trivia false cursor.rest).2
  have hrest : cursor.next.2.rest = (Scan.ofText (trivia false cursor.rest).2).rest := rfl
  refine ⟨(trivia false cursor.rest).1, (Scan.ofText (trivia false cursor.rest).2).taken, ?_⟩
  constructor
  case rest_eq => rw [hrest, hsplit, trivia_append]
  case trivia =>
    rw [hrest, hsplit]
    exact (exists_trivia cursor.rest).1
  case solid =>
    rw [hrest, hsplit]
    exact solid_trivia false cursor.rest
  case scan =>
    have hsaid : said cursor.next.1 = (Scan.ofText (trivia false cursor.rest).2).result := by
      simp only [next]
      cases (Scan.ofText (trivia false cursor.rest).2).result <;> rfl
    rw [hsaid, hrest, hsplit]
  case placed_eq =>
    simp only [next]
    cases (Scan.ofText (trivia false cursor.rest).2).result <;> rfl
  case position_eq => rw [Position.after_append]; rfl

namespace Reads

variable {cursor : Cursor} {skipped taken : List Char} {lexeme : Lexeme}

theorem takes (h : cursor.Reads skipped taken) :
    Takes cursor.next.2.rest (said cursor.next.1) taken := by
  have htakes := takes_ofText (taken ++ cursor.next.2.rest)
  rwa [h.scan] at htakes

-- A lexeme takes a character at least.
theorem taken_ne_nil (h : cursor.Reads skipped taken) (hanswer : cursor.next.1 = .ok lexeme)
    (htoken : lexeme.token ≠ .eof) : taken ≠ [] := by
  have htakes := h.takes
  rw [hanswer, said] at htakes
  generalize lexeme.token = token at htakes htoken
  cases htakes with
  | lexeme hspelled =>
      obtain ⟨c, more, rfl, -⟩ := hspelled.exists_begin
      exact List.cons_ne_nil c more
  | ended => exact absurd rfl htoken

-- The end of input is what comes when nothing is left.
theorem left_eq_nil (h : cursor.Reads skipped taken) (hanswer : cursor.next.1 = .ok lexeme)
    (htoken : lexeme.token = .eof) : taken = [] ∧ cursor.next.2.rest = [] := by
  have htakes := h.takes
  rw [hanswer, said, htoken] at htakes
  cases htakes with
  | lexeme hspelled => exact absurd rfl hspelled.ne_eof
  | ended hrest => exact ⟨rfl, hrest⟩

end Reads

end Cursor

end WindowDoc
