import WindowDoc.Proofs.Grammar.Acceptance

namespace WindowDoc

theorem Reading.events_after (lexeme : Lexeme) (waiting : Option Event) (reading : Reading) :
    (reading.after lexeme waiting).events = waiting.toList ++ reading.events := by
  cases waiting <;> simp [Reading.after, Reading.events]

namespace Lexemes

-- The lexemes with others before them.
def prepend (ls : List Lexeme) (rest : Lexemes) : Lexemes := ls.foldr .cons rest

theorem reading_cons {limit depth deeper : Nat} {place next : Place} {lexeme : Lexeme}
    {event : Option Event} (waiting : Option Event) (rest : Lexemes)
    (h : place.step limit depth lexeme.position.line lexeme.token = .goOn next deeper event) :
    (cons lexeme rest).reading limit place depth waiting =
      (rest.reading limit next deeper event).after lexeme waiting := by
  rw [reading, h]

end Lexemes

-- After a walk the reading goes on from where it led. The statement completed last may still
-- wait for its next lexeme.
theorem Grammar.Walk.reading {limit depth final : Nat} {place last : Place} {ts : List Token}
    {es : List Event} (h : Walk limit place depth ts es last final) {ls : List Lexeme}
    (hls : ls.map Lexeme.token = ts) (waiting : Option Event) :
    ∃ done kept, done ++ kept.toList = waiting.toList ++ es ∧ ∀ rest : Lexemes,
      ((rest.prepend ls).reading limit place depth waiting).result =
          (rest.reading limit last final kept).result ∧
        ((rest.prepend ls).reading limit place depth waiting).events =
          done ++ (rest.reading limit last final kept).events := by
  induction h generalizing ls waiting with
  | stay =>
      obtain rfl := List.map_eq_nil_iff.mp hls
      exact ⟨[], waiting, by simp, fun rest => ⟨rfl, rfl⟩⟩
  | @onward place depth token next deeper event tokens events last final hstep _ ih =>
      obtain ⟨l, ls, rfl, rfl, hrest⟩ := List.map_eq_cons_iff.mp hls
      obtain ⟨done, kept, hevents, hreading⟩ := ih hrest event
      refine ⟨waiting.toList ++ done, kept, by simp [hevents], fun rest => ?_⟩
      have hcons := Lexemes.reading_cons waiting (rest.prepend ls) (hstep l.position.line)
      rw [Lexemes.prepend, List.foldr_cons, ← Lexemes.prepend, hcons, Reading.events_after,
        (hreading rest).2, List.append_assoc]
      exact ⟨(hreading rest).1, rfl⟩

namespace Lexemes

-- Beyond the limit only the next lexeme is taken up, and then reading fails.
theorem result_tooDeep_ne_ok (limit depth line : Nat) (waiting : Option Event) (lx : Lexemes) :
    (lx.reading limit (.tooDeep line) depth waiting).result ≠ .ok () := by
  cases lx <;> simp [reading, Reading.stop, Reading.after, Place.step]

-- Reading succeeds on lexemes that begin with what is accepted.
theorem result_eq_ok_iff (limit : Nat) (place : Place) (depth : Nat) (waiting : Option Event)
    (lx : Lexemes) :
    (lx.reading limit place depth waiting).result = .ok () ↔
      ∃ ls rest, lx = prepend ls rest ∧
        Grammar.Accepts limit place depth (ls.map Lexeme.token) := by
  induction lx generalizing place depth waiting with
  | stopped e =>
      refine iff_of_false (by simp [reading, Reading.stop]) ?_
      rintro ⟨_ | ⟨l, ls⟩, rest, hlx, hls⟩
      · exact hls
      · cases hlx
  | ended position =>
      refine iff_of_false (by simp [reading, Reading.stop, Reading.after]) ?_
      rintro ⟨_ | ⟨l, ls⟩, rest, hlx, hls⟩
      · exact hls
      · cases hlx
  | cons lexeme lx ih =>
      have hbegin : (∃ ls rest, cons lexeme lx = prepend ls rest ∧
            Grammar.Accepts limit place depth (ls.map Lexeme.token)) ↔
          ∃ ls rest, lx = prepend ls rest ∧
            Grammar.Accepts limit place depth (lexeme.token :: ls.map Lexeme.token) := by
        constructor
        · rintro ⟨_ | ⟨l, ls⟩, rest, hlx, hls⟩
          · exact hls.elim
          · obtain ⟨rfl, rfl⟩ := cons.inj hlx
            exact ⟨ls, rest, rfl, hls⟩
        · rintro ⟨ls, rest, rfl, hls⟩
          exact ⟨lexeme :: ls, rest, rfl, hls⟩
      rw [hbegin]
      simp only [Grammar.Accepts, reading]
      cases hstep : place.step limit depth lexeme.position.line lexeme.token with
      | goOn next deeper event =>
          obtain hprogress | ⟨⟨first, rfl⟩, hpanel, hover, rfl⟩ := Place.step_eq_goOn hstep
          · rw [hprogress.step_eq limit 0 (Nat.le_refl _)]
            exact ih next deeper event
          · refine iff_of_false (result_tooDeep_ne_ok limit deeper _ event lx) ?_
            rw [hpanel, Place.step_panel_of_le hover]
            rintro ⟨ls, rest, -, hls⟩
            exact Grammar.not_accepts_tooDeep hls
      | finished =>
          obtain ⟨rfl, hperiod⟩ := Place.step_eq_finished hstep
          rw [hperiod]
          exact iff_of_true rfl ⟨[], lx, rfl, rfl⟩
      | refused =>
          have hkind := (Place.step_eq_refused_iff _ _ _ _ _).mp hstep
          rw [(Place.step_eq_refused_iff _ _ _ _ _).mpr hkind]
          simp [Reading.stop, Reading.after]

end Lexemes

-- A document within the limit is read to its end, whatever follows it.
theorem Grammar.Document.reading {limit : Nat} (d : Grammar.Document)
    (hdepth : d.window.depth ≤ limit) {ls : List Lexeme} (hls : ls.map Lexeme.token = d.tokens)
    (rest : Lexemes) :
    ((rest.prepend ls).reading limit .window 0 none).result = .ok () ∧
      ((rest.prepend ls).reading limit .window 0 none).events = d.window.events := by
  obtain ⟨front, events, htokens, hevents, hwalk⟩ := d.walk hdepth
  rw [htokens] at hls
  obtain ⟨before, last, rfl, hbefore, hlast⟩ := List.map_eq_append_iff.mp hls
  obtain ⟨l, rfl, hperiod⟩ := List.map_eq_singleton_iff.mp hlast
  obtain ⟨done, kept, hdone, hreading⟩ := hwalk.reading hbefore none
  have hend : (rest.prepend [l]).reading limit .windowEnd 0 kept =
      (⟨[.perform .showWindow], .ok ()⟩ : Reading).after l kept := by
    simp [Lexemes.prepend, Lexemes.reading, Place.step, Place.Step.onKind, hperiod, Token.kind]
  have hsplit : rest.prepend (before ++ [l]) = (rest.prepend [l]).prepend before := by
    simp [Lexemes.prepend]
  rw [hsplit, (hreading _).1, (hreading _).2, hend]
  refine ⟨rfl, ?_⟩
  rw [Reading.events_after, ← List.append_assoc, hdone, hevents]
  rfl

end WindowDoc
