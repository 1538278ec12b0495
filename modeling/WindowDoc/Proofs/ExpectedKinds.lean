import WindowDoc.Proofs.Descent.Theorems

namespace WindowDoc

namespace Grammar

-- Where the grammar leaves a choice, the kinds in the order in which they are tried.
def alternatives : List (List Kind) :=
  [[.keyword .button, .keyword .group, .keyword .label, .keyword .panel, .keyword .textField,
      .keyword .finish],
    [.keyword .radio, .keyword .finish],
    [.keyword .flow, .keyword .grid],
    [.closeParen, .comma]]

-- The one kind is tried before the other at a place where both are.
def TriedBefore (a b : Kind) : Prop := ∃ tried ∈ alternatives, [a, b].Sublist tried

instance : DecidableRel TriedBefore := fun a b =>
  inferInstanceAs (Decidable (∃ tried ∈ alternatives, [a, b].Sublist tried))

end Grammar

open Grammar

namespace Place

theorem expected_pairwise (place : Place) : place.expected.Pairwise TriedBefore := by
  cases place with
  | widgets first | radios first => cases first <;> decide
  | _ => simp [expected, TriedBefore, alternatives]

theorem expected_nodup (place : Place) : place.expected.Nodup := by
  cases place with
  | widgets first | radios first => cases first <;> decide
  | _ => simp [expected]

end Place

-- A kind is expected just if some program goes on with it.
theorem mem_expected_iff {limit depth : Nat} {place : Place} {before : List Lexeme}
    {events : List Event}
    (hwalk : Walk limit .window 0 (before.map Lexeme.token) events place depth) (kind : Kind) :
    kind ∈ place.expected ↔ Viable (before.map Lexeme.kind ++ [kind]) := by
  have hviable := hwalk.viable_append_iff kind.sample
  rw [List.map_append, ← map_kind_eq, List.map_singleton, Kind.kind_sample] at hviable
  exact hviable.symm

-- What is found at a place is that lexeme up to which the text can be the beginning of a program
-- and no longer with it, and what is expected there is all that could stand in its stead. The
-- rules list the same kinds, which are those that the lexeme has been tested for in vain.
theorem expected_of_mismatch {σ κ γ : Type} (r : Renderer σ κ γ) (options : Options)
    (source : String) (state : σ) {e : Mismatch}
    (h : (parse r options source state).value.result = .error (.mismatch e)) :
    ∃ (before : List Lexeme) (lexeme : Lexeme) (after : List (Except LexicalError Lexeme)),
      (Lexemes.ofText source).items = before.map .ok ++ .ok lexeme :: after ∧
      e.position = lexeme.position ∧ e.found = lexeme.kind ∧
      (∀ kind, kind ∈ e.expected ↔ Viable (before.map Lexeme.kind ++ [kind])) ∧
      e.expected ≠ [] ∧ e.expected.Nodup ∧ e.found ∉ e.expected ∧ .eof ∉ e.expected ∧
      e.expected.Pairwise TriedBefore ∧
      (Lexemes.ofText source).descend options.maxNesting =
        some ⟨(Reading.ofText options.maxNesting source).acts, .error (.mismatch e)⟩ := by
  rw [result_parse] at h
  have hdescend : (Lexemes.ofText source).descend options.maxNesting =
      some ⟨(Reading.ofText options.maxNesting source).acts, .error (.mismatch e)⟩ := by
    rw [Lexemes.descend_eq_reading, ← h]
    rfl
  obtain ⟨before, lexeme, after, events, place, depth, hitems, hwalk, hkind, rfl⟩ :=
    Lexemes.exists_place_of_mismatch h
  exact ⟨before, lexeme, after, hitems, rfl, rfl, mem_expected_iff hwalk, hwalk.expected_ne_nil,
    place.expected_nodup, hkind, place.eof_notMem_expected, place.expected_pairwise,
    hdescend⟩

def unfinishedGroup : String :=
  "window \"W\" (1, 2) layout flow: panel layout flow: group radio \"A\"; 5"

-- After a radio button inside of a panel there is another one or the end of the group.
theorem expected_in_group :
    (parse Recording.renderer .standard unfinishedGroup .empty).value.result =
      .error (.mismatch ⟨⟨1, 68⟩, [.keyword .radio, .keyword .finish], .number⟩) ∧
    ∃ (before : List Lexeme) (lexeme : Lexeme) (after : List (Except LexicalError Lexeme)),
      (Lexemes.ofText unfinishedGroup).items = before.map .ok ++ .ok lexeme :: after ∧
      ⟨1, 68⟩ = lexeme.position ∧ .number = lexeme.kind ∧
      (∀ kind, kind ∈ [Kind.keyword .radio, .keyword .finish] ↔
        Viable (before.map Lexeme.kind ++ [kind])) ∧
      [Kind.keyword .radio, .keyword .finish] ≠ [] ∧
      [Kind.keyword .radio, .keyword .finish].Nodup ∧
      .number ∉ [Kind.keyword .radio, .keyword .finish] ∧
      .eof ∉ [Kind.keyword .radio, .keyword .finish] ∧
      [Kind.keyword .radio, .keyword .finish].Pairwise TriedBefore ∧
      (Lexemes.ofText unfinishedGroup).descend Options.standard.maxNesting =
        some ⟨(Reading.ofText Options.standard.maxNesting unfinishedGroup).acts,
          .error (.mismatch ⟨⟨1, 68⟩, [.keyword .radio, .keyword .finish], .number⟩)⟩ := by
  have hresult : (parse Recording.renderer .standard unfinishedGroup .empty).value.result =
      .error (.mismatch ⟨⟨1, 68⟩, [.keyword .radio, .keyword .finish], .number⟩) := by
    decide +kernel
  exact ⟨hresult, expected_of_mismatch _ _ _ _ hresult⟩

end WindowDoc
