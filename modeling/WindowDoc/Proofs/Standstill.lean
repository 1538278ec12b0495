import WindowDoc.Proofs.EarliestError

namespace WindowDoc

open Grammar

namespace Lexemes

-- Where reading can lead on no further: nothing can be read, the place has no use for what is
-- read, a panel would nest too deep, or the document ends.
inductive Standstill (limit : Nat) : Place → Nat → Lexemes → Prop where
  | unlexable {place depth} (e : LexicalError) : Standstill limit place depth (stopped e)
  | stray {place depth lx lexeme after} : lx.items = .ok lexeme :: after →
      lexeme.kind ∉ place.expected → Standstill limit place depth lx
  | overdeep {first depth lexeme rest} : lexeme.token = .keyword .panel → limit ≤ depth →
      Standstill limit (.widgets first) depth (cons lexeme rest)
  | finished {depth lexeme rest} : lexeme.token = .period →
      Standstill limit .windowEnd depth (cons lexeme rest)

-- Every text is walked through until there is a standstill.
theorem exists_walk (limit : Nat) (place : Place) (depth : Nat) (lx : Lexemes) :
    ∃ front rest events last final, lx = rest.prepend front ∧
      Walk limit place depth (front.map Lexeme.token) events last final ∧
      Standstill limit last final rest := by
  induction lx generalizing place depth with
  | stopped e => exact ⟨[], _, _, _, _, rfl, .stay, .unlexable e⟩
  | ended position =>
      exact ⟨[], _, _, _, _, rfl, .stay, .stray rfl place.eof_notMem_expected⟩
  | cons lexeme lx ih =>
      cases hstep : place.step limit depth lexeme.position.line lexeme.token with
      | goOn next deeper event =>
          obtain hprogress | ⟨⟨first, rfl⟩, hpanel, hover, -⟩ := Place.step_eq_goOn hstep
          · obtain ⟨front, rest, events, last, final, rfl, hwalk, hstand⟩ := ih next deeper
            exact ⟨lexeme :: front, rest, _, _, _, rfl,
              (Walk.of_progress hprogress).append hwalk, hstand⟩
          · exact ⟨[], _, _, _, _, rfl, .stay, .overdeep hpanel hover⟩
      | finished =>
          obtain ⟨rfl, hperiod⟩ := Place.step_eq_finished hstep
          exact ⟨[], _, _, _, _, rfl, .stay, .finished hperiod⟩
      | refused =>
          have hkind := (Place.step_eq_refused_iff _ _ _ _ _).mp hstep
          exact ⟨[], _, _, _, _, rfl, .stay, .stray rfl hkind⟩

-- What a text leads to from the beginning is what its standstill does, whatever statement waits.
theorem exists_standstill (limit : Nat) (lx : Lexemes) :
    ∃ before rest events place depth kept, lx = rest.prepend before ∧
      Walk limit .window 0 (before.map Lexeme.token) events place depth ∧
      Standstill limit place depth rest ∧
      (lx.reading limit .window 0 none).result = (rest.reading limit place depth kept).result := by
  obtain ⟨before, rest, events, place, depth, rfl, hwalk, hstand⟩ := lx.exists_walk limit .window 0
  obtain ⟨done, kept, -, hreading⟩ := hwalk.reading rfl none
  exact ⟨before, rest, events, place, depth, kept, rfl, hwalk, hstand, (hreading rest).1⟩

variable {limit depth : Nat} {place : Place} {lexeme : Lexeme}

-- A place that a walk leads to is none after a panel too deep, and so what it has no use for is a
-- mismatch.
theorem reading_stray {lx : Lexemes} {after : List (Except LexicalError Lexeme)}
    (hlive : place.expected ≠ []) (hitems : lx.items = .ok lexeme :: after)
    (hkind : lexeme.kind ∉ place.expected) (waiting : Option Event) :
    lx.reading limit place depth waiting =
      (Reading.stop (.mismatch ⟨lexeme.position, place.expected, lexeme.kind⟩)).after lexeme
        waiting := by
  rw [reading_of_items_ok hitems hkind, Place.refusal_eq_mismatch hlive]

-- What comes of a panel too deep. The item after it is looked at before the panel is refused.
def overdeepFault (limit : Nat) (panel : Lexeme) : Except LexicalError Lexeme → Fault
  | .error e => .lexical e
  | .ok _ => .nestingTooDeep panel.position.line limit

theorem reading_overdeep {first : Bool} {rest : Lexemes} {next : Except LexicalError Lexeme}
    {after : List (Except LexicalError Lexeme)} (hpanel : lexeme.token = .keyword .panel)
    (hover : limit ≤ depth) (hitems : rest.items = next :: after) (waiting : Option Event) :
    ((cons lexeme rest).reading limit (.widgets first) depth waiting).result =
        .error (overdeepFault limit lexeme next) ∧
      ((cons lexeme rest).reading limit (.widgets first) depth waiting).events =
        waiting.toList := by
  have hstep : (Place.widgets first).step limit depth lexeme.position.line lexeme.token =
      .goOn (.tooDeep lexeme.position.line) depth none := by
    rw [hpanel, Place.step_panel_of_le hover]
  rw [reading_cons waiting rest hstep, Reading.events_after]
  cases next with
  | error e =>
      rw [reading_of_items_error hitems]
      exact ⟨rfl, List.append_nil _⟩
  | ok l =>
      rw [reading_of_items_ok hitems (by simp [Place.expected])]
      exact ⟨rfl, List.append_nil _⟩

theorem reading_finished {rest : Lexemes} (hperiod : lexeme.token = .period)
    (waiting : Option Event) :
    ((cons lexeme rest).reading limit .windowEnd depth waiting).result = .ok () := by
  rw [reading, hperiod]
  rfl

-- A mismatch names what is expected at the place that all before it leads to.
theorem exists_place_of_mismatch {lx : Lexemes} {e : Mismatch}
    (h : (lx.reading limit .window 0 none).result = .error (.mismatch e)) :
    ∃ (before : List Lexeme) (lexeme : Lexeme) (after : List (Except LexicalError Lexeme))
        (events : List Event) (place : Place) (depth : Nat),
      lx.items = before.map .ok ++ .ok lexeme :: after ∧
      Walk limit .window 0 (before.map Lexeme.token) events place depth ∧
      lexeme.kind ∉ place.expected ∧ e = ⟨lexeme.position, place.expected, lexeme.kind⟩ := by
  obtain ⟨before, rest, events, place, depth, kept, rfl, hwalk, hstand, hresult⟩ :=
    lx.exists_standstill limit
  rw [hresult] at h
  cases hstand with
  | unlexable e => cases h
  | @stray _ _ _ lexeme after hitems hkind =>
      rw [reading_stray hwalk.expected_ne_nil hitems hkind] at h
      cases h
      exact ⟨before, lexeme, after, events, place, depth, by rw [items_prepend, hitems], hwalk,
        hkind, rfl⟩
  | @overdeep _ _ _ rest hpanel hover =>
      obtain ⟨next, after, hitems⟩ := rest.items_eq_cons
      rw [(reading_overdeep hpanel hover hitems kept).1] at h
      cases next <;> cases h
  | finished hperiod =>
      rw [reading_finished hperiod] at h
      cases h

end Lexemes

end WindowDoc
