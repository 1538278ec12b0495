import WindowDoc.Proofs.Cutting
import WindowDoc.Proofs.Likeness
import WindowDoc.Proofs.Segmentation.Theorems

namespace WindowDoc

namespace Segmentation

-- What may be put around the lexemes of a text: blanks, and comments up to and with the end of
-- their line.
inductive Filler : List Char → Prop where
  | nil : Filler []
  | blank {c cs} : Text.isBlank c = true → Filler cs → Filler (c :: cs)
  | comment {body cs} : '\n' ∉ body → Filler cs → Filler ('/' :: '/' :: (body ++ '\n' :: cs))

-- A text and the same text with fillers right before and right after its lexemes, and before its
-- end or before what is no lexeme.
inductive Padded : List Char → List Char → Prop where
  | ended {skipped before} : Trivia [] skipped → Filler before → Padded skipped (skipped ++ before)
  | stopped {skipped before left fault} : Trivia left skipped → Stuck left fault → Filler before →
      Padded (skipped ++ left) (skipped ++ (before ++ left))
  | piece {skipped before text after rest rest' token} : Trivia (text ++ rest) skipped →
      Spelled rest text token → Filler before → Filler after → Padded rest rest' →
      Padded (skipped ++ (text ++ rest)) (skipped ++ (before ++ (text ++ (after ++ rest'))))

namespace Filler

variable {filler rest other skipped : List Char}

theorem trivia_append (h : Filler filler) (hskipped : Trivia rest skipped) :
    Trivia rest (filler ++ skipped) := by
  induction h with
  | nil => exact hskipped
  | blank hblank _ ih => exact .blank hblank ih
  | comment hbody _ ih =>
      have hline : Trivia rest ('\n' :: _) := .blank (by decide) ih
      have hcomment := Trivia.comment hbody (by simp [EndsLine]) hline
      simpa using hcomment

theorem trivia (h : Filler filler) : Trivia rest filler := by
  have htrivia : Trivia rest (filler ++ []) := h.trivia_append .nil
  rwa [List.append_nil] at htrivia

-- Only whole lines end inside of a filler.
theorem exists_line (h : Filler filler) :
    '\n' ∉ filler ∨ ∃ front back, filler = front ++ '\n' :: back ∧ '\n' ∉ front ∧ Filler back := by
  induction h with
  | nil => exact .inl List.not_mem_nil
  | @blank c cs hblank hcs ih =>
      by_cases hline : c = '\n'
      · exact .inr ⟨[], cs, by rw [hline]; rfl, List.not_mem_nil, hcs⟩
      · obtain hnone | ⟨front, back, rfl, hfront, hback⟩ := ih
        · exact .inl (List.not_mem_cons_of_ne_of_not_mem (Ne.symm hline) hnone)
        · exact .inr ⟨c :: front, back, rfl,
            List.not_mem_cons_of_ne_of_not_mem (Ne.symm hline) hfront, hback⟩
  | @comment body cs hbody hcs _ =>
      exact .inr ⟨'/' :: '/' :: body, cs, rfl, by simpa using hbody, hcs⟩

-- A filler is skipped, whatever comes after it.
theorem ofCursor (h : Filler filler) (p : Position) (cs : List Char) :
    Lexemes.ofCursor ⟨p, filler ++ cs⟩ = Lexemes.ofCursor ⟨p.after filler, cs⟩ := by
  refine Lexemes.ofCursor_skip ?_ p
  induction h with
  | nil => rfl
  | blank hblank _ ih => simp [WindowDoc.trivia, hblank, ih]
  | @comment body filler hbody _ ih =>
      have hline : WindowDoc.trivia false ('\n' :: (filler ++ cs)) =
          ('\n' :: (WindowDoc.trivia false (filler ++ cs)).1,
            (WindowDoc.trivia false (filler ++ cs)).2) := rfl
      rw [List.cons_append, List.cons_append, List.append_assoc, List.cons_append,
        trivia_slashes hbody (by simp [EndsLine]), hline, ih]
      simp

-- A filler begins with a character that continues no lexeme.
theorem ends (h : Filler filler) (hends : Scan.Ends rest other) :
    Scan.Ends rest (filler ++ other) := by
  cases h with
  | nil => exact hends
  | @blank c cs hblank _ =>
      apply Scan.Ends.of_head (isWordPart_of_isBlank hblank)
      rintro rfl
      exact absurd hblank (by decide)
  | comment => exact Scan.Ends.of_head (by decide +kernel) (by decide) _ _

end Filler

-- What is skipped before a lexeme can be followed by a filler. At the end of the text a comment
-- may still be open, and then it takes in the filler up to its first line end.
theorem Trivia.append_filler {rest skipped filler : List Char} (h : Trivia rest skipped)
    (hfiller : Filler filler) (hsolid : Solid rest) : Trivia rest (skipped ++ filler) := by
  induction h with
  | nil => exact hfiller.trivia
  | blank hblank _ ih => exact .blank hblank ih
  | @comment body cs hbody hend _ ih =>
      cases cs with
      | cons c cs =>
          have hcomment := Trivia.comment hbody (by simpa [EndsLine] using hend) ih
          simpa using hcomment
      | nil =>
          obtain rfl : rest = [] := by
            cases rest with
            | nil => rfl
            | cons c rest =>
                obtain rfl : c = '\n' := hend c rfl
                exact absurd (hsolid.blank '\n' rfl) (by decide)
          rw [List.append_nil, List.cons_append, List.cons_append]
          obtain hnone | ⟨front, back, rfl, hfront, hback⟩ := hfiller.exists_line
          · have hlonger : '\n' ∉ body ++ filler := by simp [hbody, hnone]
            have hcomment : Trivia [] ('/' :: '/' :: (body ++ filler ++ [])) :=
              .comment hlonger (by simp [EndsLine]) .nil
            rwa [List.append_nil] at hcomment
          · have hlonger : '\n' ∉ body ++ front := by simp [hbody, hfront]
            have hline : Trivia [] ('\n' :: back) := .blank (by decide) hback.trivia
            rw [← List.append_assoc]
            exact .comment hlonger (by simp [EndsLine]) hline

namespace Padded

variable {cs cs' : List Char}

-- There are places for fillers in every text: it is padded with nothing.
theorem refl (cs : List Char) : Padded cs cs := by
  obtain ⟨pieces, close, h⟩ := exists_segments cs
  induction h with
  | ended htrivia =>
      have hpadded := Padded.ended htrivia .nil
      rwa [List.append_nil] at hpadded
  | stopped htrivia hstuck => exact .stopped htrivia hstuck .nil
  | piece htrivia hspelled _ ih => exact .piece htrivia hspelled .nil .nil ih

-- A lexeme before the text ends before the padded text as well.
theorem ends (h : Padded cs cs') : Scan.Ends cs cs' := by
  induction h with
  | @ended skipped before _ hbefore =>
      have hends := (hbefore.ends (Scan.Ends.refl [])).append skipped
      rwa [List.append_nil, List.append_nil] at hends
  | @stopped skipped before left _ _ _ hbefore =>
      exact (hbefore.ends (Scan.Ends.refl left)).append skipped
  | @piece skipped before text after rest rest' token _ _ hbefore hafter _ ih =>
      exact (hbefore.ends ((hafter.ends ih).append text)).append skipped

-- Both are read alike, at whatever positions.
theorem alike (h : Padded cs cs') (p p' : Position) :
    (Lexemes.ofCursor ⟨p, cs⟩).Alike (fun _ _ => True) Eq (Lexemes.ofCursor ⟨p', cs'⟩) := by
  induction h generalizing p p' with
  | ended htrivia hbefore =>
      rw [htrivia.ofCursor_nil, (htrivia.append_filler hbefore solid_nil).ofCursor_nil]
      exact .ended trivial
  | stopped htrivia hstuck hbefore =>
      have htrivia' := htrivia.append_filler hbefore hstuck.solid
      rw [hstuck.ofCursor htrivia, ← List.append_assoc, hstuck.ofCursor htrivia']
      exact .stopped rfl trivial
  | @piece skipped before text after rest rest' token htrivia hspelled hbefore hafter hrest ih =>
      have hspelled' := hspelled.of_ends (hafter.ends hrest.ends)
      have hskipped : Trivia (text ++ (after ++ rest')) skipped := by
        obtain ⟨c, more, rfl, -⟩ := hspelled.exists_begin
        exact htrivia.of_head rfl
      have htrivia' := hskipped.append_filler hbefore hspelled'.solid
      rw [hspelled.ofCursor htrivia, ← List.append_assoc skipped, hspelled'.ofCursor htrivia']
      rw [hafter.ofCursor]
      exact .cons trivial (ih _ _)

end Padded

end Segmentation

-- What is read, apart from where it stands.
def Lexemes.content : Lexemes → List (Except LexicalFault Token)
  | stopped e => [.error e.fault]
  | ended _ => [.ok .eof]
  | cons lexeme rest => .ok lexeme.token :: rest.content

theorem Lexemes.Alike.content_eq {P : Position → Position → Prop} {lx lx' : Lexemes}
    (h : lx.Alike P Eq lx') : lx.content = lx'.content := by
  induction h with
  | stopped hfault _ => rw [content, content, hfault]
  | ended _ => rfl
  | cons _ _ ih => rw [content, content, ih]

open Segmentation

-- A padded text has the same content, and so everything that is made of it is the same, but for the
-- places that faults point at.
theorem padded_read {source source' : String} (h : Padded source.toList source'.toList) :
    (Lexemes.ofText source).content = (Lexemes.ofText source').content ∧
    ∀ options : Options,
      (∀ {σ κ γ : Type} (r : Renderer σ κ γ) (state : σ),
        (parse r options source state).value.state = (parse r options source' state).value.state ∧
        AlikeResults (Fault.Alike (fun _ _ => True) Eq)
          (parse r options source state).value.result
          (parse r options source' state).value.result) ∧
      AlikeResults (Failure.Alike (fun _ _ => True) Eq) (parseWindow options source).value
        (parseWindow options source').value := by
  have halike : (Lexemes.ofText source).Alike (fun _ _ => True) Eq (Lexemes.ofText source') :=
    h.alike .start .start
  exact ⟨halike.content_eq, fun options =>
    ⟨fun r => halike.outcome r options, halike.window options⟩⟩

-- A number and a period that touch can be taken apart, and a comment at the end of the text takes
-- in what is put behind it.
theorem padded_read_number : Padded "1.//c".toList "1 .//c//\n\t".toList ∧
    (Lexemes.ofText "1.//c").content = (Lexemes.ofText "1 .//c//\n\t").content ∧
    (parse Recording.renderer .standard "1.//c" .empty).value.state =
      (parse Recording.renderer .standard "1 .//c//\n\t" .empty).value.state ∧
    AlikeResults (Failure.Alike (fun _ _ => True) Eq) (parseWindow .standard "1.//c").value
      (parseWindow .standard "1 .//c//\n\t").value := by
  have hcomment : Trivia [] ['/', '/', 'c'] :=
    @Trivia.comment [] ['c'] [] (by decide) (by simp [EndsLine]) .nil
  have hfiller : Filler ['/', '/', '\n', '\t'] :=
    @Filler.comment [] ['\t'] (by decide) (.blank (by decide) .nil)
  have hperiod : Spelled ['/', '/', 'c'] ['.'] .period := .mark (by decide)
  have hone : Spelled ['.', '/', '/', 'c'] ['1'] (.number (Decimal.mk false 1 0).toDouble) :=
    @Spelled.whole _ false ['1'] (by decide) (List.all_eq_true.mp rfl) rfl rfl
  have hpadded : Padded "1.//c".toList "1 .//c//\n\t".toList :=
    .piece .nil hone .nil (.blank (by decide) .nil)
      (.piece .nil hperiod .nil .nil (.ended hcomment hfiller))
  obtain ⟨hcontent, hparse⟩ := padded_read hpadded
  obtain ⟨hrenderer, hwindow⟩ := hparse .standard
  exact ⟨hpadded, hcontent, (hrenderer Recording.renderer .empty).1, hwindow⟩

end WindowDoc
