import WindowDoc.Proofs.Segmentation.Scanning

namespace WindowDoc

-- A text can be cut behind a lexeme and go on in another way. The lexemes before the cut stay as
-- they are, if what stands there now could have made none of them longer.

namespace Scan

-- Where a lexeme ends before `rest` it also ends before `other`.
structure Ends (rest other : List Char) : Prop where
  word : other.head?.any Text.isWordPart = true → rest.head?.any Text.isWordPart = true
  digit : beginsWithDigit other = true → beginsWithDigit rest = true
  fraction : beginsWithFraction other = true → beginsWithFraction rest = true

theorem Ends.refl (rest : List Char) : Ends rest rest := ⟨id, id, id⟩

-- Every lexeme ends before a character that is neither part of a word nor a point.
theorem Ends.of_head {c : Char} (hword : Text.isWordPart c = false) (hpoint : c ≠ '.')
    (rest more : List Char) : Ends rest (c :: more) where
  word := fun h => absurd (show Text.isWordPart c = true from h) (by simp [hword])
  digit := by
    intro h
    have hnumeric := Text.isNumeric_of_isDigit (show Char.isDigit c = true from h)
    simp [Text.isWordPart, hnumeric] at hword
  fraction := by simp [beginsWithFraction, hpoint]

theorem Ends.space (rest more : List Char) : Ends rest (' ' :: more) :=
  .of_head (by decide) (by decide) rest more

-- What ends a lexeme is seen in the next two characters.
theorem Ends.of_two_le {cs : List Char} (h : 2 ≤ cs.length) (rest other : List Char) :
    Ends (cs ++ rest) (cs ++ other) := by
  obtain _ | ⟨c, _ | ⟨d, cs⟩⟩ := cs
  · simp at h
  · simp at h
  · refine ⟨id, id, fun hfraction => ?_⟩
    obtain ⟨e, more, hcs, hdigit⟩ := exists_of_beginsWithFraction hfraction
    obtain ⟨rfl, htail⟩ := List.cons.inj hcs
    obtain ⟨rfl, -⟩ := List.cons.inj htail
    exact hdigit

-- Behind the same characters there is as little to add as at the cut itself.
theorem Ends.append {rest other : List Char} (h : Ends rest other) (cs : List Char) :
    Ends (cs ++ rest) (cs ++ other) := by
  obtain _ | ⟨c, _ | ⟨d, cs⟩⟩ := cs
  · exact h
  · refine ⟨id, id, fun hfraction => ?_⟩
    cases other with
    | nil => simp [beginsWithFraction] at hfraction
    | cons d more =>
        by_cases hpoint : c = '.'
        · subst hpoint
          obtain ⟨e, others, hrest, hdigit⟩ := exists_of_beginsWithDigit (h.digit hfraction)
          rw [hrest]
          exact hdigit
        · simp [beginsWithFraction, hpoint] at hfraction
  · exact .of_two_le (by simp) rest other

end Scan

namespace Segmentation

-- What is spelled before `rest` is spelled the same before `other`.
theorem Spelled.of_ends {rest other text : List Char} {token : Token} (h : Spelled rest text token)
    (hends : Scan.Ends rest other) : Spelled other text token := by
  have hstop {before now : Bool} (himp : now = true → before = true) (hbefore : before = false) :
      now = false := Bool.eq_false_iff.mpr fun hnow => by simp [himp hnow] at hbefore
  cases h with
  | mark hmark => exact .mark hmark
  | string hcontent => exact .string hcontent
  | whole hne hdigits hdigit hfraction =>
      exact .whole hne hdigits (hstop hends.digit hdigit) (hstop hends.fraction hfraction)
  | fractional hne hdigits hne' hdecimals hdigit =>
      exact .fractional hne hdigits hne' hdecimals (hstop hends.digit hdigit)
  | keyword hc hword hend hspelling =>
      exact .keyword hc hword (hstop hends.word hend) hspelling

-- Where trivia end depends on the next character alone.
theorem Trivia.of_head {rest other skipped : List Char} (h : Trivia rest skipped)
    (hhead : other.head? = rest.head?) : Trivia other skipped := by
  induction h with
  | nil => exact .nil
  | blank hblank _ ih => exact .blank hblank ih
  | comment hbody hend _ ih =>
      refine .comment hbody ?_ ih
      rwa [EndsLine, List.head?_append, hhead, ← List.head?_append]

end Segmentation

namespace Lexemes

open Segmentation

-- What a first lexeme is read from: the blanks and comments before it, and its own characters.
theorem exists_scan_of_cons {cursor : Cursor} {lexeme : Lexeme} {rest : Lexemes}
    (h : ofCursor cursor = cons lexeme rest) :
    ∃ skipped left taken remaining, trivia false cursor.rest = (skipped, left) ∧
      Scan.ofText left = ⟨taken, .ok lexeme.token, remaining⟩ ∧ lexeme.token ≠ .eof ∧
      lexeme.position = cursor.position.after skipped ∧
      ofCursor ⟨(cursor.position.after skipped).after taken, remaining⟩ = rest := by
  rw [ofCursor_eq] at h
  split at h
  · cases h
  · rename_i l after hnext
    split at h
    · cases h
    · rename_i htoken
      obtain ⟨rfl, hrest⟩ := cons.inj h
      obtain ⟨hresult, -⟩ := Cursor.scan_of_next hnext
      simp only [Cursor.next, hresult, Prod.mk.injEq, Except.ok.injEq] at hnext
      obtain ⟨hlexeme, rfl⟩ := hnext
      exact ⟨_, _, _, _, rfl, by rw [← hresult], htoken, (congrArg Lexeme.position hlexeme).symm,
        hrest⟩

theorem ofCursor_append_other {cursor : Cursor} {lexeme : Lexeme} {rest : Lexemes}
    (h : ofCursor cursor = cons lexeme rest) :
    ∃ text remaining, cursor.rest = text ++ remaining ∧
      ofCursor ⟨cursor.position.after text, remaining⟩ = rest ∧
      ∀ other, Scan.Ends remaining other →
        ofCursor ⟨cursor.position, text ++ other⟩ =
          cons lexeme (ofCursor ⟨cursor.position.after text, other⟩) := by
  obtain ⟨skipped, left, taken, remaining, htrivia, hscan, htoken, hposition, hrest⟩ :=
    exists_scan_of_cons h
  have hsplit := trivia_append false cursor.rest
  have hleft := Scan.ofText_split left
  have hskipped := (exists_trivia cursor.rest).1
  rw [htrivia] at hsplit hskipped
  rw [hscan] at hleft
  have hspelled : Spelled remaining taken lexeme.token := by
    cases left with
    | nil => exact absurd (Except.ok.inj (congrArg Scan.result hscan)).symm htoken
    | cons c more =>
        have hresult := spelled_of_ofText (congrArg Scan.result hscan)
        rwa [hscan] at hresult
  refine ⟨skipped ++ taken, remaining, ?_, ?_, fun other hends => ?_⟩
  · rw [List.append_assoc, ← hsplit, ← hleft]
  · rw [Position.after_append]
    exact hrest
  · have hother := hspelled.of_ends hends
    have hskip : Trivia (taken ++ other) skipped := by
      obtain ⟨c, more, rfl, -⟩ := hspelled.exists_begin
      exact hskipped.of_head (by rw [← hleft]; rfl)
    rw [List.append_assoc, ofCursor_of_trivia (hskip.trivia_append hother.solid) hother.scan htoken,
      Position.after_append, ← hposition]

-- A text can be cut behind any of its lexemes and go on in another way.
theorem exists_cut {ls : List Lexeme} {cursor : Cursor} {rest : Lexemes}
    (h : ofCursor cursor = rest.prepend ls) :
    ∃ text remaining, cursor.rest = text ++ remaining ∧ ∀ other, Scan.Ends remaining other →
      ofCursor ⟨cursor.position, text ++ other⟩ =
        (ofCursor ⟨cursor.position.after text, other⟩).prepend ls := by
  induction ls generalizing cursor with
  | nil => exact ⟨[], cursor.rest, rfl, fun other _ => rfl⟩
  | cons l ls ih =>
      obtain ⟨text, remaining, hsplit, hrest, hfirst⟩ := ofCursor_append_other h
      obtain ⟨more, left, hmore, hlater⟩ := ih hrest
      refine ⟨text ++ more, left, ?_, fun other hends => ?_⟩
      · rw [hsplit, List.append_assoc]
        exact congrArg _ hmore
      · have hremaining : remaining = more ++ left := hmore
        rw [List.append_assoc, hfirst (more ++ other) (hremaining ▸ hends.append more),
          hlater other hends, Position.after_append]
        rfl

end Lexemes

end WindowDoc
