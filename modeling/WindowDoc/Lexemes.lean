import WindowDoc.Scan.Lemmas

namespace WindowDoc

-- A reading place in a text: what is still to be read, and where that begins.
structure Cursor where
  position : Position
  rest : List Char
deriving DecidableEq

namespace Cursor

def ofText (source : String) : Cursor := ⟨.start, source.toList⟩

-- The next lexeme or the error in its stead, and the place after it. Either is placed at the
-- first character that is neither blank nor comment. At the end of the text, and before a
-- character that begins no lexeme, the answer stays the same however often it is asked for.
def next (cursor : Cursor) : Except LexicalError Lexeme × Cursor :=
  let (skipped, left) := trivia false cursor.rest
  let place := cursor.position.after skipped
  let scan := Scan.ofText left
  let result := match scan.result with
    | .ok token => .ok ⟨token, place⟩
    | .error fault => .error ⟨fault, place⟩
  (result, ⟨place.after scan.taken, scan.rest⟩)

-- A lexeme is what is scanned behind the blanks and comments.
theorem scan_of_next {cursor after : Cursor} {lexeme : Lexeme}
    (hnext : cursor.next = (.ok lexeme, after)) :
    (Scan.ofText (trivia false cursor.rest).2).result = .ok lexeme.token ∧
      after.rest = (Scan.ofText (trivia false cursor.rest).2).rest := by
  simp only [next, Prod.mk.injEq] at hnext
  obtain ⟨hresult, hafter⟩ := hnext
  refine ⟨?_, by rw [← hafter]⟩
  split at hresult
  · rename_i token htoken
    rw [htoken, ← Except.ok.inj hresult]
  · cases hresult

theorem next_rest_length_lt {cursor after : Cursor} {lexeme : Lexeme}
    (hnext : cursor.next = (.ok lexeme, after)) (htoken : lexeme.token ≠ .eof) :
    after.rest.length < cursor.rest.length := by
  have hsplit := congrArg List.length (trivia_append false cursor.rest)
  rw [List.length_append] at hsplit
  obtain ⟨hscan, hrest⟩ := scan_of_next hnext
  have hlt := Scan.ofText_rest_length_lt hscan htoken
  rw [hrest]
  omega

end Cursor

-- The lexemes of a text in order, up to its end or to the first place where none begins.
inductive Lexemes where
  | stopped (e : LexicalError)
  | ended (position : Position)
  | cons (lexeme : Lexeme) (rest : Lexemes)
deriving DecidableEq

namespace Lexemes

def ofCursor (cursor : Cursor) : Lexemes :=
  match _ : cursor.next with
  | (.error e, _) => stopped e
  | (.ok lexeme, after) =>
      if _ : lexeme.token = .eof then ended lexeme.position
      else cons lexeme (ofCursor after)
termination_by cursor.rest.length
decreasing_by exact Cursor.next_rest_length_lt ‹_› ‹_›

theorem ofCursor_eq (cursor : Cursor) :
    ofCursor cursor = match cursor.next with
      | (.error e, _) => stopped e
      | (.ok lexeme, after) =>
          if lexeme.token = .eof then ended lexeme.position else cons lexeme (ofCursor after) := by
  rw [ofCursor]
  split <;> simp_all

def ofText (source : String) : Lexemes := ofCursor (.ofText source)

-- All lexemes, the end of input as the last of them, or the error that stands in their way.
def toList : Lexemes → Except LexicalError (List Lexeme)
  | stopped e => .error e
  | ended position => .ok [⟨.eof, position⟩]
  | cons lexeme rest => rest.toList.map (lexeme :: ·)

end Lexemes

end WindowDoc
