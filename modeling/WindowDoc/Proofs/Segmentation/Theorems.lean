import WindowDoc.Proofs.Segmentation.Scanning

namespace WindowDoc

-- The answers to so many questions in a row for the next lexeme.
def Cursor.answers : Nat → Cursor → List (Except LexicalError Lexeme)
  | 0, _ => []
  | count + 1, cursor => cursor.next.1 :: answers count cursor.next.2

namespace Segmentation

-- The text of a lexeme with the trivia before it.
structure Piece where
  skipped : List Char
  text : List Char
  token : Token

-- How a text goes on behind its last piece: with trivia and nothing else, or to something at which
-- no lexeme begins.
inductive Close where
  | ended (skipped : List Char)
  | stopped (skipped left : List Char) (fault : LexicalFault)

-- The pieces of a text in order.
inductive Segments : List Char → List Piece → Close → Prop where
  | ended {skipped} : Trivia [] skipped → Segments skipped [] (.ended skipped)
  | stopped {skipped left fault} : Trivia left skipped → Stuck left fault →
      Segments (skipped ++ left) [] (.stopped skipped left fault)
  | piece {skipped text rest token pieces close} : Trivia (text ++ rest) skipped →
      Spelled rest text token → Segments rest pieces close →
      Segments (skipped ++ (text ++ rest)) (⟨skipped, text, token⟩ :: pieces) close

-- What the pieces are read as from a position on.
def lexemes (p : Position) : List Piece → List Lexeme
  | [] => []
  | piece :: pieces =>
      ⟨piece.token, p.after piece.skipped⟩ :: lexemes (p.after (piece.skipped ++ piece.text)) pieces

theorem map_token_lexemes (p : Position) (pieces : List Piece) :
    (lexemes p pieces).map Lexeme.token = pieces.map Piece.token := by
  induction pieces generalizing p with
  | nil => rfl
  | cons piece pieces ih => rw [lexemes, List.map_cons, List.map_cons, ih]

theorem length_lexemes (p : Position) (pieces : List Piece) :
    (lexemes p pieces).length = pieces.length := by
  have hlength := congrArg List.length (map_token_lexemes p pieces)
  rwa [List.length_map, List.length_map] at hlength

-- What is read after all pieces: the end of input, or why there is no lexeme.
def last (p : Position) (pieces : List Piece) (close : Close) : Except LexicalError Lexeme :=
  let behind := p.after (pieces.flatMap fun piece => piece.skipped ++ piece.text)
  match close with
  | .ended skipped => .ok ⟨.eof, behind.after skipped⟩
  | .stopped skipped _ fault => .error ⟨fault, behind.after skipped⟩

variable {skipped left cs : List Char} {fault : LexicalFault}

theorem last_cons (p : Position) (piece : Piece) (pieces : List Piece) (close : Close) :
    last p (piece :: pieces) close = last (p.after (piece.skipped ++ piece.text)) pieces close := by
  cases close <;> simp [last, Position.after_append]

theorem Stuck.exists_cons (h : Stuck left fault) : ∃ c rest, left = c :: rest := by
  cases h.blame with
  | word => exact ⟨_, _, rfl⟩
  | quote => exact ⟨_, _, rfl⟩
  | character => exact ⟨_, _, rfl⟩

theorem Stuck.ne_nil (h : Stuck left fault) : left ≠ [] := by
  obtain ⟨c, rest, rfl⟩ := h.exists_cons
  exact List.cons_ne_nil c rest

theorem Spelled.append_ne_nil {text rest : List Char} {token : Token}
    (h : Spelled rest text token) : text ++ rest ≠ [] := by
  obtain ⟨c, more, rfl, -⟩ := h.exists_begin
  exact List.cons_ne_nil c (more ++ rest)

theorem Stuck.scan (h : Stuck left fault) : (Scan.ofText left).result = .error fault := by
  obtain ⟨c, rest, rfl⟩ := h.exists_cons
  cases hresult : (Scan.ofText (c :: rest)).result with
  | ok token =>
      exact absurd (spelled_of_ofText hresult) (h.unspelled _ _ _ (Scan.ofText_split _).symm)
  | error fault' => rw [(blame_of_ofText hresult).unique h.blame]

-- Every text has pieces.
theorem exists_segments (cs : List Char) : ∃ pieces close, Segments cs pieces close := by
  induction hlength : cs.length using Nat.strongRecOn generalizing cs with
  | ind length ih =>
      have htrivia := (exists_trivia cs).1
      have hsolid := solid_trivia false cs
      have hsplit := trivia_append false cs
      rw [← hsplit]
      cases hleft : (trivia false cs).2 with
      | nil =>
          rw [hleft] at htrivia
          rw [List.append_nil]
          exact ⟨[], _, .ended htrivia⟩
      | cons c rest =>
          rw [hleft] at htrivia hsolid
          have hscan := Scan.ofText_split (c :: rest)
          cases hresult : (Scan.ofText (c :: rest)).result with
          | ok token =>
              have hspelled := spelled_of_ofText hresult
              have hlt := Scan.ofText_rest_length_lt hresult hspelled.ne_eof
              have hshorter : (Scan.ofText (c :: rest)).rest.length < length := by
                rw [← hlength, ← hsplit, hleft, List.length_append]
                exact Nat.lt_of_lt_of_le hlt (Nat.le_add_left _ _)
              obtain ⟨pieces, close, hrest⟩ := ih _ hshorter _ rfl
              rw [← hscan] at htrivia ⊢
              exact ⟨_, close, .piece htrivia hspelled hrest⟩
          | error fault =>
              refine ⟨[], _, .stopped htrivia ⟨hsolid, ?_, blame_of_ofText hresult⟩⟩
              intro text rest' token hsplit' hspelled
              rw [hsplit', hspelled.scan] at hresult
              cases hresult

-- The trivia are all that can be skipped.
theorem Trivia.unique {skipped' left' : List Char} (h : Trivia left skipped) (hsolid : Solid left)
    (h' : Trivia left' skipped') (hsolid' : Solid left')
    (hsame : skipped ++ left = skipped' ++ left') : skipped = skipped' ∧ left = left' := by
  have htrivia := h.trivia_append hsolid
  rw [hsame, h'.trivia_append hsolid'] at htrivia
  exact ⟨(Prod.mk.inj htrivia).1.symm, (Prod.mk.inj htrivia).2.symm⟩

theorem solid_nil : Solid [] := ⟨by simp, by simp⟩

theorem Spelled.unique {text rest text' rest' : List Char} {token token' : Token}
    (h : Spelled rest text token) (h' : Spelled rest' text' token')
    (hsame : text ++ rest = text' ++ rest') : text = text' ∧ token = token' ∧ rest = rest' := by
  have hscan := h.scan
  rw [hsame, h'.scan, Scan.mk.injEq, Except.ok.injEq] at hscan
  exact ⟨hscan.1.symm, hscan.2.1.symm, hscan.2.2.symm⟩

theorem Segments.unique {pieces pieces' : List Piece} {close close' : Close}
    (h : Segments cs pieces close) (h' : Segments cs pieces' close') :
    pieces = pieces' ∧ close = close' := by
  induction h generalizing pieces' with
  | @ended skipped htrivia =>
      generalize hcs : skipped = cs at h'
      cases h' with
      | ended => exact ⟨rfl, rfl⟩
      | stopped htrivia' hstuck' =>
          rw [← List.append_nil skipped] at hcs
          obtain ⟨-, hleft⟩ := htrivia.unique solid_nil htrivia' hstuck'.solid hcs
          exact absurd hleft.symm hstuck'.ne_nil
      | piece htrivia' hspelled' =>
          rw [← List.append_nil skipped] at hcs
          obtain ⟨-, hleft⟩ := htrivia.unique solid_nil htrivia' hspelled'.solid hcs
          exact absurd hleft.symm hspelled'.append_ne_nil
  | @stopped skipped left fault htrivia hstuck =>
      generalize hcs : skipped ++ left = cs at h'
      cases h' with
      | ended htrivia' =>
          rw [← List.append_nil cs] at hcs
          obtain ⟨-, hleft⟩ := htrivia.unique hstuck.solid htrivia' solid_nil hcs
          exact absurd hleft hstuck.ne_nil
      | stopped htrivia' hstuck' =>
          obtain ⟨rfl, rfl⟩ := htrivia.unique hstuck.solid htrivia' hstuck'.solid hcs
          exact ⟨rfl, by rw [hstuck.blame.unique hstuck'.blame]⟩
      | piece htrivia' hspelled' =>
          obtain ⟨-, rfl⟩ := htrivia.unique hstuck.solid htrivia' hspelled'.solid hcs
          exact absurd hspelled' (hstuck.unspelled _ _ _ rfl)
  | @piece skipped text rest token pieces close htrivia hspelled _ ih =>
      generalize hcs : skipped ++ (text ++ rest) = cs at h'
      cases h' with
      | ended htrivia' =>
          rw [← List.append_nil cs] at hcs
          obtain ⟨-, hleft⟩ := htrivia.unique hspelled.solid htrivia' solid_nil hcs
          exact absurd hleft hspelled.append_ne_nil
      | stopped htrivia' hstuck' =>
          obtain ⟨-, hleft⟩ := htrivia.unique hspelled.solid htrivia' hstuck'.solid hcs
          exact absurd hspelled (hstuck'.unspelled _ _ _ hleft.symm)
      | piece htrivia' hspelled' hrest' =>
          obtain ⟨rfl, hleft⟩ := htrivia.unique hspelled.solid htrivia' hspelled'.solid hcs
          obtain ⟨rfl, rfl, rfl⟩ := hspelled.unique hspelled' hleft
          obtain ⟨rfl, rfl⟩ := ih hrest'
          exact ⟨rfl, rfl⟩

-- One question is answered with the first piece.
theorem Spelled.next {text rest : List Char} {token : Token} (h : Spelled rest text token)
    (htrivia : Trivia (text ++ rest) skipped) (p : Position) :
    Cursor.next ⟨p, skipped ++ (text ++ rest)⟩ =
      (.ok ⟨token, p.after skipped⟩, ⟨p.after (skipped ++ text), rest⟩) := by
  rw [Cursor.next, htrivia.trivia_append h.solid]
  simp only [h.scan, Position.after_append]

theorem Trivia.next_nil (h : Trivia [] skipped) (p : Position) :
    (Cursor.next ⟨p, skipped⟩).1 = .ok ⟨.eof, p.after skipped⟩ := by
  have htrivia := h.trivia_append solid_nil
  rw [List.append_nil] at htrivia
  rw [Cursor.next, htrivia]
  rfl

theorem Stuck.next (h : Stuck left fault) (htrivia : Trivia left skipped) (p : Position) :
    (Cursor.next ⟨p, skipped ++ left⟩).1 = .error ⟨fault, p.after skipped⟩ := by
  rw [Cursor.next, htrivia.trivia_append h.solid]
  simp only [h.scan]

-- Question by question the answers are the pieces, and then the close.
theorem Segments.answers {pieces : List Piece} {close : Close} (h : Segments cs pieces close)
    (p : Position) :
    Cursor.answers (pieces.length + 1) ⟨p, cs⟩ =
      (lexemes p pieces).map .ok ++ [last p pieces close] := by
  induction h generalizing p with
  | ended htrivia =>
      simp only [List.length_nil, Cursor.answers, htrivia.next_nil p]
      rfl
  | stopped htrivia hstuck =>
      simp only [List.length_nil, Cursor.answers, hstuck.next htrivia p]
      rfl
  | piece htrivia hspelled _ ih =>
      rw [List.length_cons, Cursor.answers, hspelled.next htrivia p, ih, last_cons]
      rfl

-- The same for all lexemes at once.

theorem Spelled.ofCursor {text rest : List Char} {token : Token} (h : Spelled rest text token)
    (htrivia : Trivia (text ++ rest) skipped) (p : Position) :
    Lexemes.ofCursor ⟨p, skipped ++ (text ++ rest)⟩ =
      .cons ⟨token, p.after skipped⟩ (Lexemes.ofCursor ⟨p.after (skipped ++ text), rest⟩) := by
  rw [Lexemes.ofCursor_of_trivia (htrivia.trivia_append h.solid) h.scan h.ne_eof,
    Position.after_append]

theorem Trivia.ofCursor_nil (h : Trivia [] skipped) (p : Position) :
    Lexemes.ofCursor ⟨p, skipped⟩ = .ended (p.after skipped) := by
  have hnext := h.next_nil p
  rw [Lexemes.ofCursor_eq]
  cases hcursor : Cursor.next ⟨p, skipped⟩ with
  | mk answer after =>
      rw [hcursor] at hnext
      obtain rfl := hnext
      rfl

theorem Stuck.ofCursor (h : Stuck left fault) (htrivia : Trivia left skipped) (p : Position) :
    Lexemes.ofCursor ⟨p, skipped ++ left⟩ = .stopped ⟨fault, p.after skipped⟩ := by
  have hnext := h.next htrivia p
  rw [Lexemes.ofCursor_eq]
  cases hcursor : Cursor.next ⟨p, skipped ++ left⟩ with
  | mk answer after =>
      rw [hcursor] at hnext
      obtain rfl := hnext
      rfl

theorem Segments.toList {pieces : List Piece} {close : Close} (h : Segments cs pieces close)
    (p : Position) :
    (Lexemes.ofCursor ⟨p, cs⟩).toList =
      (last p pieces close).map (fun final => lexemes p pieces ++ [final]) := by
  induction h generalizing p with
  | ended htrivia =>
      rw [htrivia.ofCursor_nil]
      rfl
  | stopped htrivia hstuck =>
      rw [hstuck.ofCursor htrivia]
      rfl
  | @piece skipped text rest token pieces close htrivia hspelled _ ih =>
      rw [hspelled.ofCursor htrivia, Lexemes.toList, ih, last_cons]
      cases last (p.after (skipped ++ text)) pieces close <;> rfl

-- Every text is cut into pieces in just one way, and these are what is read.
theorem segments_read (source : String) :
    ∃ pieces close, Segments source.toList pieces close ∧
      (∀ pieces' close', Segments source.toList pieces' close' →
        pieces' = pieces ∧ close' = close) ∧
      (Cursor.ofText source).answers (pieces.length + 1) =
        (lexemes .start pieces).map .ok ++ [last .start pieces close] ∧
      (Lexemes.ofText source).toList =
        (last .start pieces close).map (fun final => lexemes .start pieces ++ [final]) := by
  obtain ⟨pieces, close, h⟩ := exists_segments source.toList
  exact ⟨pieces, close, h, fun _ _ h' => h'.unique h, h.answers .start, h.toList .start⟩

-- A minus sign belongs to the number behind it, whatever stands before it.
example : (Lexemes.ofText "1-2.").toList =
    .ok [⟨.number (Decimal.mk false 1 0).toDouble, ⟨1, 1⟩⟩,
      ⟨.number (Decimal.mk true 2 0).toDouble, ⟨1, 2⟩⟩, ⟨.period, ⟨1, 4⟩⟩, ⟨.eof, ⟨1, 5⟩⟩] := by
  decide +kernel

end Segmentation

end WindowDoc
