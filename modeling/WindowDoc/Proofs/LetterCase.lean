import Mathlib
import WindowDoc.Proofs.Cutting
import WindowDoc.Proofs.Likeness
import WindowDoc.Proofs.Segmentation.Theorems

namespace WindowDoc

namespace Text

variable {c d : Char} {cs ds : List Char}

theorem eq_or_isAlpha_of_toLower_eq (h : c.toLower = d.toLower) :
    c = d ∨ c.isAlpha = true ∧ d.isAlpha = true := by
  have hsame : c.isAlpha = d.isAlpha := by
    rw [← Char.isAlpha_toLower_eq_isAlpha c, h, Char.isAlpha_toLower_eq_isAlpha]
  cases hd : d.isAlpha with
  | true => exact .inr ⟨hsame.trans hd, rfl⟩
  | false =>
      have hc := hsame.trans hd
      simp only [Char.isAlpha, Bool.or_eq_false_iff] at hc hd
      rw [Char.toLower_eq_of_not_isUpper (by simp [hc.1]),
        Char.toLower_eq_of_not_isUpper (by simp [hd.1])] at h
      exact .inl h

-- What is the same for all letters of ASCII does not depend on their case.

theorem eq_of_toLower_eq {p : Char → Bool} {b : Bool} (hp : ∀ c, c.isAlpha = true → p c = b)
    (h : c.toLower = d.toLower) : p c = p d := by
  obtain rfl | ⟨hc, hd⟩ := eq_or_isAlpha_of_toLower_eq h
  · rfl
  · rw [hp c hc, hp d hd]

theorem isAlphabetic_eq (h : c.toLower = d.toLower) : isAlphabetic c = isAlphabetic d :=
  eq_of_toLower_eq (fun _ => isAlphabetic_of_isAlpha) h

theorem isWordPart_eq (h : c.toLower = d.toLower) : isWordPart c = isWordPart d :=
  eq_of_toLower_eq (fun _ hc => isWordPart_of_isAlphabetic (isAlphabetic_of_isAlpha hc)) h

theorem isDigit_eq (h : c.toLower = d.toLower) : c.isDigit = d.isDigit :=
  eq_of_toLower_eq (fun _ hc => Segmentation.isDigit_of_isAlphabetic (isAlphabetic_of_isAlpha hc)) h

theorem isBlank_eq (h : c.toLower = d.toLower) : isBlank c = isBlank d :=
  eq_of_toLower_eq (fun _ hc => Segmentation.isBlank_of_isAlphabetic (isAlphabetic_of_isAlpha hc)) h

theorem eq_iff_of_toLower_eq {mark : Char} (hmark : mark.isAlpha = false)
    (h : c.toLower = d.toLower) : c = mark ↔ d = mark := by
  obtain rfl | ⟨hc, hd⟩ := eq_or_isAlpha_of_toLower_eq h
  · rfl
  · refine iff_of_false ?_ ?_ <;> rintro rfl <;> simp_all

-- The same characters, but for the case of the letters of ASCII among them.
def SameLetters (cs ds : List Char) : Prop := cs.map Char.toLower = ds.map Char.toLower

instance : Decidable (SameLetters cs ds) :=
  inferInstanceAs (Decidable (cs.map Char.toLower = ds.map Char.toLower))

namespace SameLetters

theorem refl (cs : List Char) : SameLetters cs cs := rfl

theorem append {cs' ds' : List Char} (h : SameLetters cs ds) (h' : SameLetters cs' ds') :
    SameLetters (cs ++ cs') (ds ++ ds') := by
  rw [SameLetters, List.map_append, List.map_append, h, h']

theorem forall_mem {p : Char → Prop} (hp : ∀ c d, c.toLower = d.toLower → (p c ↔ p d))
    (h : SameLetters cs ds) (hcs : ∀ c ∈ cs, p c) : ∀ d ∈ ds, p d := by
  intro d hd
  have hlower : d.toLower ∈ cs.map Char.toLower := by
    rw [h]
    exact List.mem_map_of_mem hd
  obtain ⟨c, hc, hsame⟩ := List.mem_map.mp hlower
  exact (hp c d hsame).mp (hcs c hc)

theorem notMem {mark : Char} (hmark : mark.isAlpha = false) (h : SameLetters cs ds)
    (hcs : mark ∉ cs) : mark ∉ ds := by
  intro hds
  have hsame (c d : Char) (hcd : c.toLower = d.toLower) : c ≠ mark ↔ d ≠ mark :=
    not_congr (eq_iff_of_toLower_eq hmark hcd)
  have hall : ∀ d ∈ ds, d ≠ mark := h.forall_mem hsame fun c hc => ne_of_mem_of_not_mem hc hcs
  exact hall mark hds rfl

theorem head?_any {p : Char → Bool} (hp : ∀ c d, c.toLower = d.toLower → p c = p d)
    (h : SameLetters cs ds) : cs.head?.any p = ds.head?.any p := by
  cases cs <;> cases ds
  · rfl
  · cases h
  · cases h
  · exact hp _ _ (List.cons.inj h).1

theorem beginsWithDigit_eq (h : SameLetters cs ds) :
    Scan.beginsWithDigit cs = Scan.beginsWithDigit ds :=
  h.head?_any fun _ _ => isDigit_eq

-- A lexeme that ends before the one ends before the other.
theorem ends (h : SameLetters cs ds) : Scan.Ends cs ds where
  word := fun hword => by rwa [h.head?_any fun _ _ => isWordPart_eq]
  digit := fun hdigit => by rwa [h.beginsWithDigit_eq]
  fraction := by
    intro hfraction
    obtain ⟨e, more, rfl, he⟩ := Scan.exists_of_beginsWithFraction hfraction
    obtain ⟨c, tail, rfl, hc, htail⟩ := List.map_eq_cons_iff.mp h
    obtain ⟨d, tail, rfl, hd, -⟩ := List.map_eq_cons_iff.mp htail
    rw [(eq_iff_of_toLower_eq (by decide) hc).mpr rfl]
    exact (isDigit_eq hd).trans he

-- Lines end at the same places.
theorem after_eq (h : SameLetters cs ds) (p : Position) : p.after cs = p.after ds := by
  induction cs generalizing ds p with
  | nil => rw [List.map_eq_nil_iff.mp h.symm]
  | cons c cs ih =>
      obtain ⟨d, ds, rfl, hd, hds⟩ := List.map_eq_cons_iff.mp h.symm
      have hline : c = '\n' ↔ d = '\n' := eq_iff_of_toLower_eq (by decide) hd.symm
      have hadvance : p.advance c = p.advance d := by
        simp only [Position.advance, hline]
      exact (congrArg (Position.after · cs) hadvance).trans (ih hds.symm _)

theorem endsLine (h : SameLetters cs ds) (hend : Segmentation.EndsLine cs) :
    Segmentation.EndsLine ds := by
  intro d hd
  obtain ⟨ds, rfl⟩ := List.head?_eq_some_iff.mp hd
  obtain ⟨c, cs, rfl, hc, -⟩ := List.map_eq_cons_iff.mp h
  exact (eq_iff_of_toLower_eq (by decide) hc).mp (hend c rfl)

-- Neither of them is skipped if the other is not.
theorem solid (h : SameLetters cs ds) (hsolid : Segmentation.Solid cs) : Segmentation.Solid ds where
  blank := by
    intro d hd
    obtain ⟨ds, rfl⟩ := List.head?_eq_some_iff.mp hd
    obtain ⟨c, cs, rfl, hc, -⟩ := List.map_eq_cons_iff.mp h
    exact (isBlank_eq hc).symm.trans (hsolid.blank c rfl)
  comment := by
    rintro ⟨more, rfl⟩
    obtain ⟨c, tail, rfl, hc, htail⟩ := List.map_eq_cons_iff.mp h
    obtain ⟨d, tail, rfl, hd, -⟩ := List.map_eq_cons_iff.mp htail
    obtain rfl := (eq_iff_of_toLower_eq (by decide) hc).mpr rfl
    obtain rfl := (eq_iff_of_toLower_eq (by decide) hd).mpr rfl
    exact hsolid.comment ⟨tail, rfl⟩

-- The same keyword is spelled, if any.
theorem ofWord?_eq (h : SameLetters cs ds) : Keyword.ofWord? cs = Keyword.ofWord? ds := by
  rw [Keyword.ofWord?, h, Keyword.ofWord?]

end SameLetters

end Text

open Text (SameLetters)

-- The same fault, but for the case of letters in a word that is not known.
inductive LexicalFault.Recased : LexicalFault → LexicalFault → Prop where
  | same {fault} : Recased fault fault
  | word {word word' : String} : SameLetters word.toList word'.toList →
      Recased (.unknownWord word) (.unknownWord word')

structure LexicalError.Recased (e e' : LexicalError) : Prop where
  fault : e.fault.Recased e'.fault
  position : e.position = e'.position

namespace Segmentation

-- A text, and the same text with letters of ASCII in another case, inside of comments and of bare
-- words, be they keywords or not. Behind a character that begins no lexeme nothing is read, and any
-- letters may be in another case.
inductive Recased : List Char → List Char → Prop where
  | same {cs} : Recased cs cs
  | blank {c rest rest'} : Text.isBlank c = true → Recased rest rest' →
      Recased (c :: rest) (c :: rest')
  | comment {body body' rest rest'} : '\n' ∉ body → EndsLine rest → SameLetters body body' →
      Recased rest rest' → Recased ('/' :: '/' :: (body ++ rest)) ('/' :: '/' :: (body' ++ rest'))
  | word {c c' run run' rest rest'} : Text.isAlphabetic c = true →
      (∀ d ∈ run, Text.isWordPart d = true) → rest.head?.any Text.isWordPart = false →
      SameLetters (c :: run) (c' :: run') → Recased rest rest' →
      Recased (c :: run ++ rest) (c' :: run' ++ rest')
  | lexeme {text rest rest' token} : Spelled rest text token → Recased rest rest' →
      Recased (text ++ rest) (text ++ rest')
  -- a string that is still open where its line ends
  | unterminated {content rest rest'} : (∀ c ∈ content, Scan.isContent c = true) →
      EndsLine rest → Recased rest rest' →
      Recased ('"' :: content ++ rest) ('"' :: content ++ rest')
  | stopped {c rest rest'} : Stuck (c :: rest) (.unexpectedChar c) → SameLetters rest rest' →
      Recased (c :: rest) (c :: rest')

namespace Recased

variable {cs cs' : List Char}

theorem sameLetters (h : Recased cs cs') : SameLetters cs cs' := by
  induction h with
  | same => exact .refl _
  | blank _ _ ih => exact SameLetters.append (.refl [_]) ih
  | comment _ _ hbody _ ih => exact SameLetters.append (.refl ['/', '/']) (hbody.append ih)
  | word _ _ _ hword _ ih => exact hword.append ih
  | lexeme _ _ ih => exact SameLetters.append (.refl _) ih
  | unterminated _ _ _ ih => exact SameLetters.append (.refl _) ih
  | stopped _ hsame => exact SameLetters.append (.refl [_]) hsame

-- The same is skipped, but for letters in comments.
theorem trivia (h : Recased cs cs') :
    SameLetters (trivia false cs).1 (trivia false cs').1 ∧
      Recased (WindowDoc.trivia false cs).2 (WindowDoc.trivia false cs').2 := by
  induction h with
  | same => exact ⟨.refl _, .same⟩
  | @blank c rest rest' hblank _ ih =>
      have hskip (cs : List Char) : WindowDoc.trivia false (c :: cs) =
          (c :: (WindowDoc.trivia false cs).1, (WindowDoc.trivia false cs).2) := by
        simp [WindowDoc.trivia, hblank]
      rw [hskip, hskip]
      exact ⟨SameLetters.append (.refl [c]) ih.1, ih.2⟩
  | comment hbody hend hsame hrest ih =>
      have hbody' := hsame.notMem (by decide) hbody
      rw [trivia_slashes hbody hend, trivia_slashes hbody' (hrest.sameLetters.endsLine hend)]
      exact ⟨SameLetters.append (.refl ['/', '/']) (hsame.append ih.1), ih.2⟩
  | @word c _ run _ rest _ hc hrun hend hword hrest _ =>
      have hsolid : Solid (c :: run ++ rest) :=
        solid_of_begin (isBlank_of_isAlphabetic hc) (ne_slash_of_isAlphabetic hc) _
      rw [trivia_of_solid hsolid, trivia_of_solid ((hword.append hrest.sameLetters).solid hsolid)]
      exact ⟨.refl _, .word hc hrun hend hword hrest⟩
  | lexeme hspelled hrest _ =>
      have hspelled' := hspelled.of_ends hrest.sameLetters.ends
      rw [trivia_of_solid hspelled.solid, trivia_of_solid hspelled'.solid]
      exact ⟨.refl _, .lexeme hspelled hrest⟩
  | unterminated hcontent hend hrest _ =>
      have hsolid (more : List Char) : Solid ('"' :: more) :=
        solid_of_begin (by decide) (by decide) more
      rw [List.cons_append, List.cons_append, trivia_of_solid (hsolid _),
        trivia_of_solid (hsolid _)]
      exact ⟨.refl _, .unterminated hcontent hend hrest⟩
  | @stopped c _ rest' hstuck hsame =>
      have hsolid' : Solid (c :: rest') := (SameLetters.append (.refl [c]) hsame).solid hstuck.solid
      rw [trivia_of_solid hstuck.solid, trivia_of_solid hsolid']
      exact ⟨.refl _, .stopped hstuck hsame⟩

-- The same is scanned, but for letters in a word that is not known.
theorem scan (h : Recased cs cs') (hsolid : Solid cs) :
    SameLetters (Scan.ofText cs).taken (Scan.ofText cs').taken ∧
      AlikeResults LexicalFault.Recased (Scan.ofText cs).result (Scan.ofText cs').result ∧
      Recased (Scan.ofText cs).rest (Scan.ofText cs').rest := by
  cases h with
  | same => exact ⟨.refl _, .refl (fun _ => .same) _, .same⟩
  | @blank c _ _ hblank _ =>
      rw [hsolid.blank c rfl] at hblank
      cases hblank
  | comment => exact absurd ⟨_, rfl⟩ hsolid.comment
  | @word c c' run run' rest rest' hc hrun hend hword hrest =>
      obtain ⟨hfirst, hrun'⟩ := List.cons.inj hword
      have hc' := (Text.isAlphabetic_eq hfirst).symm.trans hc
      have hparts := SameLetters.forall_mem (p := fun d => Text.isWordPart d = true)
        (fun c d hsame => by rw [Text.isWordPart_eq hsame]) hrun' hrun
      have hend' := (hrest.sameLetters.head?_any fun _ _ => Text.isWordPart_eq).symm.trans hend
      rw [ofText_word hc hrun hend, ofText_word hc' hparts hend', hword.ofWord?_eq]
      refine ⟨hword, ?_, hrest⟩
      cases Keyword.ofWord? (c' :: run') with
      | some k => exact .ok
      | none => exact .error (.word (by rwa [String.toList_ofList, String.toList_ofList]))
  | lexeme hspelled hrest =>
      rw [hspelled.scan, (hspelled.of_ends hrest.sameLetters.ends).scan]
      exact ⟨.refl _, .ok, hrest⟩
  | unterminated hcontent hend hrest =>
      rw [ofText_unterminated hcontent hend,
        ofText_unterminated hcontent (hrest.sameLetters.endsLine hend)]
      exact ⟨.refl _, .error .same, hrest⟩
  | stopped hstuck hsame =>
      rw [ofText_unexpected hstuck.scan rfl, ofText_unexpected hstuck.scan hsame.beginsWithDigit_eq]
      exact ⟨.refl _, .error .same, .stopped hstuck hsame⟩

end Recased

end Segmentation

-- Two reading places that are the same but for the case of letters behind them.
structure Cursor.Recased (cursor cursor' : Cursor) : Prop where
  position : cursor.position = cursor'.position
  rest : Segmentation.Recased cursor.rest cursor'.rest

namespace Cursor.Recased

variable {cursor cursor' : Cursor}

-- What one question leads to: the same answer, and again the same place.
theorem next (h : cursor.Recased cursor') :
    AlikeResults LexicalError.Recased cursor.next.1 cursor'.next.1 ∧
      cursor.next.2.Recased cursor'.next.2 := by
  obtain ⟨hskipped, hleft⟩ := h.rest.trivia
  obtain ⟨htaken, hresult, hrest⟩ := hleft.scan (Segmentation.solid_trivia false cursor.rest)
  have hplace := hskipped.after_eq cursor.position
  simp only [Cursor.next, ← h.position, ← hplace]
  refine ⟨?_, ⟨htaken.after_eq _, hrest⟩⟩
  generalize (Scan.ofText (trivia false cursor.rest).2).result = result at hresult
  generalize (Scan.ofText (trivia false cursor'.rest).2).result = result' at hresult
  cases hresult with
  | ok => exact .ok
  | error hfault => exact .error ⟨hfault, rfl⟩

-- The same answers, however often it is asked.
theorem answers (h : cursor.Recased cursor') (count : Nat) :
    List.Forall₂ (AlikeResults LexicalError.Recased) (Cursor.answers count cursor)
      (Cursor.answers count cursor') := by
  induction count generalizing cursor cursor' with
  | zero => exact .nil
  | succ count ih => exact .cons h.next.1 (ih h.next.2)

theorem alike (h : cursor.Recased cursor') :
    (Lexemes.ofCursor cursor).Alike Eq LexicalFault.Recased (Lexemes.ofCursor cursor') := by
  induction hlength : cursor.rest.length using Nat.strongRecOn generalizing cursor cursor' with
  | ind length ih =>
      obtain ⟨hresult, hafter⟩ := h.next
      rw [Lexemes.ofCursor_eq cursor, Lexemes.ofCursor_eq cursor']
      cases hnext : cursor.next with
      | mk answer after =>
          cases hnext' : cursor'.next with
          | mk answer' after' =>
              rw [hnext, hnext'] at hresult hafter
              cases hresult with
              | error he => exact .stopped he.fault he.position
              | @ok lexeme =>
                  by_cases htoken : lexeme.token = .eof
                  · simp only [if_pos htoken]
                    exact .ended rfl
                  · simp only [if_neg htoken]
                    have hlt := Cursor.next_rest_length_lt hnext htoken
                    exact .cons rfl (ih after.rest.length (hlength ▸ hlt) hafter rfl)

end Cursor.Recased

-- The case of letters in comments and bare words is seen in a word that is not known, and nowhere
-- else: not by whoever asks for lexemes, not by a renderer, and not in a window.
theorem recased_read {source source' : String}
    (h : Segmentation.Recased source.toList source'.toList) :
    (∀ count, List.Forall₂ (AlikeResults LexicalError.Recased)
      ((Cursor.ofText source).answers count) ((Cursor.ofText source').answers count)) ∧
    ∀ options : Options,
      (∀ {σ κ γ : Type} (r : Renderer σ κ γ) (state : σ),
        (parse r options source state).value.state = (parse r options source' state).value.state ∧
        AlikeResults (Fault.Alike Eq LexicalFault.Recased)
          (parse r options source state).value.result
          (parse r options source' state).value.result) ∧
      AlikeResults (Failure.Alike Eq LexicalFault.Recased) (parseWindow options source).value
        (parseWindow options source').value := by
  have hcursor : (Cursor.ofText source).Recased (Cursor.ofText source') := ⟨rfl, h⟩
  have halike : (Lexemes.ofText source).Alike Eq LexicalFault.Recased (Lexemes.ofText source') :=
    hcursor.alike
  exact ⟨hcursor.answers, fun options => ⟨fun r => halike.outcome r options, halike.window options⟩⟩

-- Words before and behind a comment, the first of them no keyword.
theorem recased_read_words : Segmentation.Recased "Foo //Bar\nLabel".toList
      "fOO //bAR\nlABEL".toList ∧
    List.Forall₂ (AlikeResults LexicalError.Recased)
      ((Cursor.ofText "Foo //Bar\nLabel").answers 3)
      ((Cursor.ofText "fOO //bAR\nlABEL").answers 3) ∧
    AlikeResults (Failure.Alike Eq LexicalFault.Recased)
      (parseWindow .standard "Foo //Bar\nLabel").value
      (parseWindow .standard "fOO //bAR\nlABEL").value := by
  have hletters {run : List Char} (h : run.all Char.isAlpha = true) :
      ∀ d ∈ run, Text.isWordPart d = true := by
    intro d hd
    exact Text.isWordPart_of_isAlphabetic
      (Text.isAlphabetic_of_isAlpha (List.all_eq_true.mp h d hd))
  have hlabel : Segmentation.Recased ['L', 'a', 'b', 'e', 'l'] ['l', 'A', 'B', 'E', 'L'] :=
    @Segmentation.Recased.word 'L' 'l' ['a', 'b', 'e', 'l'] ['A', 'B', 'E', 'L'] [] []
      (Text.isAlphabetic_of_isAlpha rfl) (hletters (by decide)) rfl (by decide) .same
  have hcomment : Segmentation.Recased "//Bar\nLabel".toList "//bAR\nlABEL".toList :=
    @Segmentation.Recased.comment ['B', 'a', 'r'] ['b', 'A', 'R'] ('\n' :: ['L', 'a', 'b', 'e', 'l'])
      ('\n' :: ['l', 'A', 'B', 'E', 'L']) (by decide) (by simp [Segmentation.EndsLine])
      (by decide) (.blank (by decide) hlabel)
  have hrecased : Segmentation.Recased "Foo //Bar\nLabel".toList "fOO //bAR\nlABEL".toList :=
    @Segmentation.Recased.word 'F' 'f' ['o', 'o'] ['O', 'O'] (' ' :: "//Bar\nLabel".toList)
      (' ' :: "//bAR\nlABEL".toList) (Text.isAlphabetic_of_isAlpha rfl) (hletters (by decide))
      (Segmentation.isWordPart_of_isBlank (by decide)) (by decide)
      (.blank (by decide) hcomment)
  obtain ⟨hanswers, hparse⟩ := recased_read hrecased
  exact ⟨hrecased, hanswers 3, (hparse .standard).2⟩

end WindowDoc
