import WindowDoc.Proofs.RoundTrip

namespace WindowDoc

-- The same result, or errors that are related.
inductive AlikeResults {ε α : Type} (E : ε → ε → Prop) : Except ε α → Except ε α → Prop where
  | ok {a} : AlikeResults E (.ok a) (.ok a)
  | error {e e'} : E e e' → AlikeResults E (.error e) (.error e')

theorem AlikeResults.refl {ε α : Type} {E : ε → ε → Prop} (h : ∀ e, E e e) :
    (result : Except ε α) → AlikeResults E result result
  | .ok _ => .ok
  | .error e => .error (h e)

-- Texts whose lexemes are told apart by nothing but where they stand, up to a relation `P` between
-- the positions and a relation `E` between the lexical faults at the end.

section

variable (P : Position → Position → Prop) (E : LexicalFault → LexicalFault → Prop)

inductive Lexemes.Alike : Lexemes → Lexemes → Prop where
  | stopped {fault fault' p p'} : E fault fault' → P p p' →
      Alike (stopped ⟨fault, p⟩) (stopped ⟨fault', p'⟩)
  | ended {p p'} : P p p' → Alike (ended p) (ended p')
  | cons {token p p' rest rest'} : P p p' → Alike rest rest' →
      Alike (cons ⟨token, p⟩ rest) (cons ⟨token, p'⟩ rest')

-- The same is wrong, with what is to blame and where it stands told up to `E` and `P`.
inductive Fault.Alike : Fault → Fault → Prop where
  | lexical {fault fault' p p'} : E fault fault' → P p p' →
      Alike (.lexical ⟨fault, p⟩) (.lexical ⟨fault', p'⟩)
  | mismatch {p p' expected found} : P p p' →
      Alike (.mismatch ⟨p, expected, found⟩) (.mismatch ⟨p', expected, found⟩)
  | nestingTooDeep {p p' limit} : P p p' →
      Alike (.nestingTooDeep p.line limit) (.nestingTooDeep p'.line limit)

inductive Failure.Alike : Failure → Failure → Prop where
  | same {failure} : Alike failure failure
  | unparsed {name fault fault'} : fault.Alike P E fault' →
      Alike (.unparsed name fault) (.unparsed name fault')

-- The same takes effect, and it ends alike.
structure Reading.Alike (reading reading' : Reading) : Prop where
  events : reading.events = reading'.events
  result : AlikeResults (Fault.Alike P E) reading.result reading'.result

end

variable {P : Position → Position → Prop} {E : LexicalFault → LexicalFault → Prop}
  {limit depth : Nat} {p p' : Position} {waiting : Option Event} {lx lx' : Lexemes}

theorem Reading.Alike.stop {fault fault' : Fault} (h : fault.Alike P E fault') :
    Alike P E (.stop fault) (.stop fault') :=
  ⟨rfl, .error h⟩

theorem Reading.Alike.after {reading reading' : Reading} (h : reading.Alike P E reading')
    (lexeme lexeme' : Lexeme) (waiting : Option Event) :
    (reading.after lexeme waiting).Alike P E (reading'.after lexeme' waiting) where
  events := by rw [events_after, events_after, h.events]
  result := h.result

namespace Lexemes.Alike

-- Beyond the limit the line of the panel is what is told.
theorem reading_tooDeep (h : lx.Alike P E lx') (hp : P p p') :
    (lx.reading limit (.tooDeep p.line) depth waiting).Alike P E
      (lx'.reading limit (.tooDeep p'.line) depth waiting) := by
  cases h with
  | stopped hfault hpos => exact .stop (.lexical hfault hpos)
  | ended => exact (Reading.Alike.stop (.nestingTooDeep hp)).after _ _ waiting
  | cons => exact (Reading.Alike.stop (.nestingTooDeep hp)).after _ _ waiting

-- No step depends on where its lexeme stands, except that a panel that nests too deep keeps its
-- line.
theorem reading {place : Place} (h : lx.Alike P E lx') (hlive : place.expected ≠ []) :
    (lx.reading limit place depth waiting).Alike P E (lx'.reading limit place depth waiting) := by
  induction h generalizing place depth waiting with
  | stopped hfault hpos => exact .stop (.lexical hfault hpos)
  | ended hpos =>
      simp only [Lexemes.reading, Place.refusal_eq_mismatch hlive]
      exact (Reading.Alike.stop (.mismatch hpos)).after _ _ waiting
  | @cons token p p' rest rest' hpos hrest ih =>
      simp only [Lexemes.reading]
      apply Reading.Alike.after
      cases hstep : place.step limit depth p.line token with
      | goOn next deeper event =>
          obtain hprogress | ⟨⟨first, rfl⟩, rfl, hover, rfl⟩ := Place.step_eq_goOn hstep
          · rw [hprogress.step_eq limit p'.line (Nat.le_refl _)]
            exact ih hprogress.expected_ne_nil
          · have hdeep := Place.step_panel_of_le hover first
            obtain ⟨-, rfl, rfl⟩ := Place.Step.goOn.inj (hstep.symm.trans (hdeep p.line))
            rw [hdeep p'.line]
            exact hrest.reading_tooDeep hpos
      | finished =>
          obtain ⟨rfl, rfl⟩ := Place.step_eq_finished hstep
          exact ⟨rfl, .ok⟩
      | refused =>
          have hkind := (Place.step_eq_refused_iff _ _ _ _ _).mp hstep
          rw [(Place.step_eq_refused_iff _ _ _ _ _).mpr hkind]
          simp only [Place.refusal_eq_mismatch hlive]
          exact .stop (.mismatch hpos)

end Lexemes.Alike

section

variable {σ κ γ : Type} {source source' : String}
  (h : (Lexemes.ofText source).Alike P E (Lexemes.ofText source'))

include h

theorem Lexemes.Alike.ofText (limit : Nat) :
    (Reading.ofText limit source).Alike P E (Reading.ofText limit source') :=
  h.reading (List.cons_ne_nil _ _)

-- Every renderer is told the same, however the calls are committed, and the results are alike.
theorem Lexemes.Alike.outcome (r : Renderer σ κ γ) (options : Options) (state : σ) :
    (parse r options source state).value.state = (parse r options source' state).value.state ∧
      AlikeResults (Fault.Alike P E) (parse r options source state).value.result
        (parse r options source' state).value.result := by
  obtain ⟨hevents, hresults⟩ := h.ofText options.maxNesting
  rw [result_parse, result_parse]
  refine ⟨?_, hresults⟩
  generalize hresult : (Reading.ofText options.maxNesting source).result = result at hresults
  generalize hresult' : (Reading.ofText options.maxNesting source').result = result' at hresults
  cases hresults with
  | ok => rw [state_parse_of_ok r state hresult, state_parse_of_ok r state hresult', hevents]
  | error _ =>
      obtain ⟨hcommit, hstate⟩ | ⟨hcommit, hstate⟩ := state_parse_of_error r state hresult <;>
        obtain ⟨hcommit', hstate'⟩ | ⟨hcommit', hstate'⟩ := state_parse_of_error r state hresult'
      · rw [hstate, hstate']
      · cases hcommit.symm.trans hcommit'
      · cases hcommit.symm.trans hcommit'
      · rw [hstate, hstate', hevents]

-- There is the same window, or none for like reasons.
theorem Lexemes.Alike.window (options : Options) :
    AlikeResults (Failure.Alike P E) (parseWindow options source).value
      (parseWindow options source').value := by
  obtain ⟨hstate, hresults⟩ := h.outcome Assembler.renderer options .empty
  generalize hresult :
    (parse Assembler.renderer options source .empty).value.result = result at hresults
  generalize hresult' :
    (parse Assembler.renderer options source' .empty).value.result = result' at hresults
  rw [value_parseWindow_eq, value_parseWindow_eq, Assembler.harvest, Assembler.harvest, hresult,
    hresult', hstate]
  cases hresults with
  | ok => exact .refl (fun _ => .same) _
  | error hfault => exact .error (.unparsed hfault)

end

end WindowDoc
