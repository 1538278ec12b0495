import WindowDoc.Proofs.Segmentation.Basic

namespace WindowDoc.Segmentation

-- What is skipped is trivia, and what is scanned behind it is a lexeme in its full length or, where
-- there is none, to blame.

-- A comment that has begun goes on to the end of its line.
theorem trivia_comment {body cs : List Char} (hbody : '\n' ∉ body) (hend : EndsLine cs) :
    trivia true (body ++ cs) = (body ++ (trivia false cs).1, (trivia false cs).2) := by
  induction body with
  | nil =>
      cases cs with
      | nil => rfl
      | cons c rest =>
          obtain rfl : c = '\n' := hend c rfl
          rfl
  | cons c body ih =>
      rw [List.mem_cons, not_or] at hbody
      have hgo : (c != '\n') = true := bne_iff_ne.mpr (Ne.symm hbody.1)
      simp only [List.cons_append, trivia, if_true, hgo, ih hbody.2]

-- Two slashes begin a comment.
theorem trivia_slashes {body cs : List Char} (hbody : '\n' ∉ body) (hend : EndsLine cs) :
    trivia false ('/' :: '/' :: (body ++ cs)) =
      ('/' :: '/' :: (body ++ (trivia false cs).1), (trivia false cs).2) := by
  have hinside : '\n' ∉ '/' :: body := by simpa using hbody
  have hrest := trivia_comment hinside hend
  have hslashes (more : List Char) : trivia false ('/' :: '/' :: more) =
      ('/' :: (trivia true ('/' :: more)).1, (trivia true ('/' :: more)).2) := rfl
  rw [List.cons_append] at hrest
  rw [hslashes, hrest]
  rfl

theorem trivia_of_solid {cs : List Char} (h : Solid cs) : trivia false cs = ([], cs) := by
  cases cs with
  | nil => rfl
  | cons c rest =>
      have hblank := h.blank c rfl
      have hslashes : ¬ (c = '/' ∧ rest.head? = some '/') := by
        rintro ⟨rfl, hhead⟩
        obtain ⟨more, rfl⟩ := List.head?_eq_some_iff.mp hhead
        exact h.comment ⟨more, rfl⟩
      simp [trivia, hblank, hslashes]

theorem Trivia.trivia_append {skipped left : List Char} (h : Trivia left skipped)
    (hsolid : Solid left) : trivia false (skipped ++ left) = (skipped, left) := by
  induction h with
  | nil => exact trivia_of_solid hsolid
  | @blank c cs hblank _ ih => simp [trivia, hblank, ih]
  | @comment body cs hbody hend _ ih =>
      rw [List.cons_append, List.cons_append, List.append_assoc, trivia_slashes hbody hend, ih]

theorem solid_trivia (inComment : Bool) (cs : List Char) : Solid (trivia inComment cs).2 := by
  induction cs generalizing inComment with
  | nil => exact ⟨by simp [trivia], by simp [trivia]⟩
  | cons c rest ih =>
      unfold trivia
      split
      · exact ih _
      split
      · exact ih false
      split
      · exact ih true
      rename_i hblank hslashes
      refine ⟨by simpa using hblank, fun hcomment => hslashes ?_⟩
      obtain ⟨behind, hbehind⟩ := hcomment
      obtain ⟨rfl, hrest⟩ := List.cons.inj hbehind
      exact ⟨rfl, by rw [← hrest]; rfl⟩

-- Inside of a comment what is skipped first is the rest of that.
theorem exists_trivia (cs : List Char) :
    Trivia (trivia false cs).2 (trivia false cs).1 ∧
      ∃ body skipped, (trivia true cs).1 = body ++ skipped ∧ '\n' ∉ body ∧
        EndsLine (skipped ++ (trivia true cs).2) ∧ Trivia (trivia true cs).2 skipped := by
  induction cs with
  | nil => exact ⟨.nil, [], [], rfl, by simp, by simp [EndsLine, trivia], .nil⟩
  | cons c rest ih =>
      obtain ⟨hrest, body, skipped, htaken, hbody, hend, hskipped⟩ := ih
      constructor
      · by_cases hblank : Text.isBlank c = true
        · have hc : trivia false (c :: rest) = (c :: (trivia false rest).1, (trivia false rest).2) := by
            simp [trivia, hblank]
          rw [hc]
          exact .blank hblank hrest
        by_cases hslashes : c = '/' ∧ rest.head? = some '/'
        · obtain ⟨rfl, hhead⟩ := hslashes
          have hc : trivia false ('/' :: rest) = ('/' :: (trivia true rest).1, (trivia true rest).2) := by
            simp [trivia, hblank, hhead]
          obtain ⟨more, rfl⟩ := List.head?_eq_some_iff.mp hhead
          have hslash : (trivia true ('/' :: more)).1 = '/' :: (trivia true more).1 := rfl
          rw [hc]
          rw [hslash] at htaken ⊢
          -- the second slash belongs to the comment, since the line does not end with it
          cases body with
          | nil =>
              rw [List.nil_append] at htaken
              rw [← htaken] at hend
              exact absurd (hend '/' rfl) (by decide)
          | cons d body =>
              obtain ⟨rfl, htaken⟩ := List.cons.inj htaken
              rw [htaken]
              exact .comment (fun h => hbody (List.mem_cons_of_mem _ h)) hend hskipped
        · have hc : trivia false (c :: rest) = ([], c :: rest) := by
            simp [trivia, hblank, hslashes]
          rw [hc]
          exact .nil
      · by_cases hline : c = '\n'
        · subst hline
          exact ⟨[], '\n' :: (trivia false rest).1, rfl, List.not_mem_nil, by simp [EndsLine],
            .blank (by decide) hrest⟩
        · have hgo : (c != '\n') = true := bne_iff_ne.mpr hline
          have hc : trivia true (c :: rest) = (c :: (trivia true rest).1, (trivia true rest).2) := by
            simp only [trivia, if_true, hgo]
          rw [hc]
          refine ⟨c :: body, skipped, by rw [htaken]; rfl, ?_, hend, hskipped⟩
          rw [List.mem_cons, not_or]
          exact ⟨Ne.symm hline, hbody⟩

-- A bare word is scanned up to its end, keyword or not.
theorem ofText_word {c : Char} {run rest : List Char} (hc : Text.isAlphabetic c = true)
    (hrun : ∀ d ∈ run, Text.isWordPart d = true) (hend : rest.head?.any Text.isWordPart = false) :
    Scan.ofText (c :: run ++ rest) =
      ⟨c :: run, match Keyword.ofWord? (c :: run) with
        | some k => .ok (.keyword k)
        | none => .error (.unknownWord (String.ofList (c :: run))), rest⟩ := by
  have hall : ∀ d ∈ c :: run, Text.isWordPart d = true :=
    List.forall_mem_cons.mpr ⟨Text.isWordPart_of_isAlphabetic hc, hrun⟩
  obtain ⟨htake, hdrop⟩ := Scan.takeWhile_append_end hall hend
  have hdigit : ¬ c.isDigit = true := by simp [isDigit_of_isAlphabetic hc]
  rw [List.cons_append] at htake hdrop ⊢
  rw [Scan.ofText_of_isAlphabetic hc hdigit]
  cases hk : Keyword.ofWord? (c :: run) <;> simp only [Scan.word, htake, hdrop, hk]

-- A string that is still open where its line ends.
theorem ofText_unterminated {content rest : List Char}
    (hcontent : ∀ c ∈ content, Scan.isContent c = true) (hend : EndsLine rest) :
    Scan.ofText ('"' :: content ++ rest) =
      ⟨'"' :: content, .error .unterminatedString, rest⟩ := by
  have hstop : rest.head?.any Scan.isContent = false := by
    cases rest with
    | nil => rfl
    | cons c more =>
        obtain rfl : c = '\n' := hend c rfl
        rfl
  obtain ⟨htake, hdrop⟩ := Scan.takeWhile_append_end hcontent hstop
  have hstring : Scan.ofText ('"' :: content ++ rest) = Scan.string (content ++ rest) := rfl
  rw [hstring]
  simp only [Scan.string, htake, hdrop]
  split
  · exact absurd (hend '"' rfl) (by decide)
  · rfl

namespace Spelled

variable {text rest : List Char} {token : Token}

theorem ofText_sign (negative : Bool) {digits : List Char} (hne : digits ≠ [])
    (hdigits : ∀ d ∈ digits, d.isDigit = true) (more : List Char) :
    Scan.ofText (sign negative ++ digits ++ more) = Scan.number negative (digits ++ more) := by
  obtain ⟨d, digits, rfl⟩ := List.exists_cons_of_ne_nil hne
  have hd := hdigits d List.mem_cons_self
  cases negative with
  | true => exact Scan.ofText_of_minus hd
  | false => exact Scan.ofText_of_isDigit hd _

-- A lexeme is scanned as it is spelled.
theorem scan (h : Spelled rest text token) : Scan.ofText (text ++ rest) = ⟨text, .ok token, rest⟩ := by
  cases h with
  | @mark c _ hmark =>
      simp only [marks, List.mem_cons, Prod.mk.injEq, List.not_mem_nil, or_false] at hmark
      obtain ⟨rfl, rfl⟩ | ⟨rfl, rfl⟩ | ⟨rfl, rfl⟩ | ⟨rfl, rfl⟩ | ⟨rfl, rfl⟩ | ⟨rfl, rfl⟩ := hmark <;>
        rfl
  | string hcontent => simpa using Scan.ofText_string hcontent rest
  | @whole negative digits hne hdigits hdigit hfraction =>
      rw [ofText_sign negative hne hdigits, Scan.number_whole negative hdigits hdigit hfraction]
      rfl
  | @fractional negative digits decimals hne hdigits hne' hdecimals hdigit =>
      rw [List.append_assoc (sign negative ++ digits), ofText_sign negative hne hdigits,
        List.cons_append, Scan.number_fractional negative hdigits hne' hdecimals hdigit]
      rfl
  | @keyword c word k hc hword hend hspelling =>
      rw [ofText_word hc hword hend, ofWord?_eq_some_iff.mpr hspelling]

end Spelled

-- What a number is spelled with.
theorem spelled_number (negative : Bool) {c : Char} (hc : c.isDigit = true) (cs : List Char) :
    ∃ token, (Scan.number negative (c :: cs)).result = .ok token ∧
      Spelled (Scan.number negative (c :: cs)).rest (Scan.number negative (c :: cs)).taken token := by
  have hdigits : ∀ d ∈ (c :: cs).takeWhile Char.isDigit, d.isDigit = true :=
    List.all_eq_true.mp List.all_takeWhile
  have hne : (c :: cs).takeWhile Char.isDigit ≠ [] := by simp [hc]
  have hend := Scan.head?_dropWhile_any Char.isDigit (c :: cs)
  have hsplit : (c :: cs).takeWhile Char.isDigit ++ (c :: cs).dropWhile Char.isDigit = c :: cs :=
    List.takeWhile_append_dropWhile
  cases hfraction : Scan.beginsWithFraction ((c :: cs).dropWhile Char.isDigit) with
  | false =>
      rw [← hsplit, Scan.number_whole negative hdigits hend hfraction]
      exact ⟨_, rfl, .whole hne hdigits hend hfraction⟩
  | true =>
      obtain ⟨d, more, hrest, hd⟩ := Scan.exists_of_beginsWithFraction hfraction
      have hdecimals : ∀ e ∈ (d :: more).takeWhile Char.isDigit, e.isDigit = true :=
        List.all_eq_true.mp List.all_takeWhile
      have hne' : (d :: more).takeWhile Char.isDigit ≠ [] := by simp [hd]
      have hend' := Scan.head?_dropWhile_any Char.isDigit (d :: more)
      have hsplit' : (d :: more).takeWhile Char.isDigit ++ (d :: more).dropWhile Char.isDigit =
          d :: more := List.takeWhile_append_dropWhile
      rw [← hsplit, hrest, ← hsplit',
        Scan.number_fractional negative hdigits hne' hdecimals hend']
      exact ⟨_, rfl, .fractional hne hdigits hne' hdecimals hend'⟩

-- A token that is scanned is spelled by what is taken, and ends there.
theorem spelled_of_ofText {c : Char} {cs : List Char} {token : Token}
    (h : (Scan.ofText (c :: cs)).result = .ok token) :
    Spelled (Scan.ofText (c :: cs)).rest (Scan.ofText (c :: cs)).taken token := by
  by_cases hquote : c = '"'
  · subst hquote
    have hstring : Scan.ofText ('"' :: cs) = Scan.string cs := rfl
    rw [hstring] at h ⊢
    simp only [Scan.string] at h ⊢
    split at h
    · rename_i rest hrest
      obtain rfl := Except.ok.inj h
      have hcontent : Quotable (String.ofList (cs.takeWhile Scan.isContent)) := by
        rw [quotable_iff, String.toList_ofList]
        exact List.all_eq_true.mp List.all_takeWhile
      have hspelled : Spelled rest _ _ := .string hcontent
      rwa [String.toList_ofList] at hspelled
    · cases h
  by_cases hdigit : c.isDigit = true
  · rw [Scan.ofText_of_isDigit hdigit] at h ⊢
    obtain ⟨token', htoken, hspelled⟩ := spelled_number false hdigit cs
    rw [htoken] at h
    exact Except.ok.inj h ▸ hspelled
  by_cases hminus : c = '-' ∧ Scan.beginsWithDigit cs = true
  · obtain ⟨rfl, hbegins⟩ := hminus
    obtain ⟨d, digits, rfl, hd⟩ := Scan.exists_of_beginsWithDigit hbegins
    rw [Scan.ofText_of_minus hbegins] at h ⊢
    obtain ⟨token', htoken, hspelled⟩ := spelled_number true hd digits
    rw [htoken] at h
    exact Except.ok.inj h ▸ hspelled
  by_cases halpha : Text.isAlphabetic c = true
  · rw [Scan.ofText_of_isAlphabetic halpha hdigit] at h ⊢
    have hparts := List.takeWhile_cons_of_pos (l := cs) (Text.isWordPart_of_isAlphabetic halpha)
    simp only [Scan.word] at h ⊢
    split at h
    · rename_i k hk
      obtain rfl := Except.ok.inj h
      rw [hparts] at hk ⊢
      refine .keyword halpha (List.all_eq_true.mp List.all_takeWhile)
        (Scan.head?_dropWhile_any _ _) (ofWord?_eq_some_iff.mp hk)
    · cases h
  · simp only [Scan.ofText] at h ⊢
    split_ifs at h ⊢
    all_goals cases h
    all_goals subst_vars; exact .mark (by simp [marks])

-- What is scanned in vain is to blame.
theorem blame_of_ofText {c : Char} {cs : List Char} {fault : LexicalFault}
    (h : (Scan.ofText (c :: cs)).result = .error fault) : Blame (c :: cs) fault := by
  by_cases hquote : c = '"'
  · subst hquote
    have hstring : Scan.ofText ('"' :: cs) = Scan.string cs := rfl
    rw [hstring] at h
    simp only [Scan.string] at h
    split at h
    · cases h
    · rw [← Except.error.inj h]
      exact .quote
  by_cases hdigit : c.isDigit = true
  · rw [Scan.ofText_of_isDigit hdigit] at h
    cases h
  by_cases halpha : Text.isAlphabetic c = true
  · rw [Scan.ofText_of_isAlphabetic halpha hdigit] at h
    have hsplit : (c :: cs).takeWhile Text.isWordPart ++ (c :: cs).dropWhile Text.isWordPart = c :: cs :=
      List.takeWhile_append_dropWhile
    have hparts := List.takeWhile_cons_of_pos (l := cs) (Text.isWordPart_of_isAlphabetic halpha)
    simp only [Scan.word] at h
    split at h
    · cases h
    · have hrun : ∀ d ∈ cs.takeWhile Text.isWordPart, Text.isWordPart d = true :=
        List.all_eq_true.mp List.all_takeWhile
      have hblame := Blame.word halpha hrun (Scan.head?_dropWhile_any _ (c :: cs))
      rw [← hparts, hsplit] at hblame
      rw [← Except.error.inj h]
      exact hblame
  · have hfault : fault = .unexpectedChar c := by
      simp only [Scan.ofText] at h
      split_ifs at h
      all_goals cases h
      rfl
    rw [hfault]
    exact .character (Bool.eq_false_iff.mpr halpha) hquote

-- A character that begins no lexeme is left where it is. What comes behind it matters only as to
-- whether it is a digit.
theorem ofText_unexpected {c : Char} {cs cs' : List Char}
    (h : (Scan.ofText (c :: cs)).result = .error (.unexpectedChar c))
    (hdigit : Scan.beginsWithDigit cs = Scan.beginsWithDigit cs') :
    Scan.ofText (c :: cs') = ⟨[], .error (.unexpectedChar c), c :: cs'⟩ := by
  cases blame_of_ofText h with
  | character halpha hquote =>
      simp only [Scan.ofText, hdigit, halpha, hquote, Bool.false_eq_true, if_false] at h ⊢
      split_ifs at h ⊢
      -- a number is never scanned in vain
      · cases h
      · cases h
      · rfl

theorem Blame.unique {left : List Char} {fault fault' : LexicalFault} (h : Blame left fault)
    (h' : Blame left fault') : fault = fault' := by
  cases h with
  | @word c run rest hc hrun hend =>
      have hall : ∀ d ∈ c :: run, Text.isWordPart d = true :=
        List.forall_mem_cons.mpr ⟨Text.isWordPart_of_isAlphabetic hc, hrun⟩
      generalize hleft : c :: run ++ rest = left at h'
      cases h' with
      | @word c' run' rest' hc' hrun' hend' =>
          have hall' : ∀ d ∈ c' :: run', Text.isWordPart d = true :=
            List.forall_mem_cons.mpr ⟨Text.isWordPart_of_isAlphabetic hc', hrun'⟩
          have hsame := (Scan.takeWhile_append_end hall hend).1
          rw [hleft, (Scan.takeWhile_append_end hall' hend').1] at hsame
          rw [hsame]
      | quote =>
          obtain rfl := (List.cons.inj hleft).1
          exact absurd hc (by decide +kernel)
      | character hc' =>
          obtain rfl := (List.cons.inj hleft).1
          rw [hc] at hc'
          cases hc'
  | quote =>
      generalize hleft : '"' :: _ = left at h'
      cases h' with
      | word hc' =>
          obtain rfl := (List.cons.inj hleft).1
          exact absurd hc' (by decide +kernel)
      | quote => rfl
      | character _ hquote => exact absurd (List.cons.inj hleft).1.symm hquote
  | @character c rest hc hquote =>
      generalize hleft : c :: rest = left at h'
      cases h' with
      | word hc' =>
          obtain rfl := (List.cons.inj hleft).1
          rw [hc] at hc'
          cases hc'
      | quote => exact absurd (List.cons.inj hleft).1 hquote
      | character => rw [(List.cons.inj hleft).1]

end WindowDoc.Segmentation
