import WindowDoc.Proofs.Grammar.Viable

namespace WindowDoc

-- The lexemes numbered from zero, with the end of input or the error that stops them as the
-- last item.
def Lexemes.items : Lexemes → List (Except LexicalError Lexeme)
  | stopped e => [.error e]
  | ended position => [.ok ⟨.eof, position⟩]
  | cons lexeme rest => .ok lexeme :: rest.items

open Grammar

-- What an item does if it decides a document: its number, how many items are looked at by
-- then, and how the document ends.
inductive Decision (limit : Nat) (items : List (Except LexicalError Lexeme)) :
    Nat → Nat → Except Fault Unit → Prop where
  | unlexable {before : List Lexeme} {e after} : items = before.map .ok ++ .error e :: after →
      Decision limit items before.length (before.length + 1) (.error (.lexical e))
  -- no program goes on like this, although some go on up to here
  | stray {before : List Lexeme} {lexeme after} (expected : List Kind) :
      items = before.map .ok ++ .ok lexeme :: after →
      Viable (before.map Lexeme.kind) → ¬ Viable ((before ++ [lexeme]).map Lexeme.kind) →
      Decision limit items before.length (before.length + 1)
        (.error (.mismatch ⟨lexeme.position, expected, lexeme.kind⟩))
  -- a widget that begins one panel too many, where an error in the next item comes first
  | overdeep {before : List Lexeme} {lexeme next after} :
      items = before.map .ok ++ .ok lexeme :: next :: after →
      lexeme.token = .keyword .panel → Viable ((before ++ [lexeme]).map Lexeme.kind) →
      openPanels (before.map Lexeme.kind) = limit →
      Decision limit items before.length (before.length + 2)
        (.error (match next with
          | .error e => .lexical e
          | .ok _ => .nestingTooDeep lexeme.position.line limit))
  | complete {before : List Lexeme} {lexeme after} : items = before.map .ok ++ .ok lexeme :: after →
      IsProgram ((before ++ [lexeme]).map Lexeme.kind) →
      Decision limit items before.length (before.length + 1) (.ok ())

namespace Lexemes

variable {limit depth : Nat} {place : Place} {lx other : Lexemes} {lexeme : Lexeme}

theorem items_eq_cons (lx : Lexemes) : ∃ item rest, lx.items = item :: rest := by
  cases lx with
  | stopped e => exact ⟨_, _, rfl⟩
  | ended position => exact ⟨_, _, rfl⟩
  | cons lexeme rest => exact ⟨_, _, rfl⟩

-- An item that stops the reading is all that the reading looks at.

theorem reading_of_items_error {e : LexicalError} {after : List (Except LexicalError Lexeme)}
    (h : lx.items = .error e :: after) (waiting : Option Event) :
    lx.reading limit place depth waiting = .stop (.lexical e) := by
  cases lx with
  | stopped e' =>
      obtain ⟨he, -⟩ := List.cons.inj h
      rw [reading, Except.error.inj he]
  | ended position => cases h
  | cons lexeme rest => cases h

theorem reading_of_items_ok {after : List (Except LexicalError Lexeme)}
    (h : lx.items = .ok lexeme :: after) (hkind : lexeme.kind ∉ place.expected)
    (waiting : Option Event) :
    lx.reading limit place depth waiting =
      (Reading.stop (place.refusal limit lexeme)).after lexeme waiting := by
  cases lx with
  | stopped e => cases h
  | ended position =>
      obtain ⟨hlexeme, -⟩ := List.cons.inj h
      rw [reading, Except.ok.inj hlexeme]
  | cons l rest =>
      obtain ⟨hlexeme, -⟩ := List.cons.inj h
      obtain rfl := Except.ok.inj hlexeme
      rw [reading, (Place.step_eq_refused_iff _ _ _ _ _).mpr hkind]

end Lexemes

namespace Lexemes

theorem items_prepend (before : List Lexeme) (lx : Lexemes) :
    (lx.prepend before).items = before.map .ok ++ lx.items := by
  induction before with
  | nil => rfl
  | cons lexeme before ih =>
      rw [prepend, List.foldr_cons, items, ← prepend, ih]
      rfl

theorem prepend_append_singleton (before : List Lexeme) (lexeme : Lexeme) (lx : Lexemes) :
    lx.prepend (before ++ [lexeme]) = (cons lexeme lx).prepend before := by
  simp [prepend]

-- The same first item, and as many more of the others.
theorem exists_items_of_take {lx other : Lexemes} {item : Except LexicalError Lexeme}
    {after : List (Except LexicalError Lexeme)} {count : Nat} (hitems : lx.items = item :: after)
    (h : other.items.take (count + 1) = lx.items.take (count + 1)) :
    ∃ after', other.items = item :: after' ∧ after'.take count = after.take count := by
  obtain ⟨item', after', hother⟩ := other.items_eq_cons
  rw [hother, hitems, List.take_succ_cons, List.take_succ_cons, List.cons.injEq] at h
  exact ⟨after', by rw [hother, h.1], h.2⟩

theorem exists_cons_of_take {lx other : Lexemes} {lexeme : Lexeme} {count : Nat}
    (heof : lexeme.token ≠ .eof)
    (h : other.items.take (count + 1) = (cons lexeme lx).items.take (count + 1)) :
    ∃ rest, other = cons lexeme rest ∧ rest.items.take count = lx.items.take count := by
  obtain ⟨after, hother, hafter⟩ := exists_items_of_take rfl h
  cases other with
  | stopped e => cases hother
  | ended position =>
      cases hother
      exact absurd rfl heof
  | cons lexeme' rest =>
      obtain ⟨hlexeme, rfl⟩ := List.cons.inj hother
      exact ⟨rest, by rw [Except.ok.inj hlexeme], hafter⟩

end Lexemes

variable {limit depth : Nat} {place : Place} {before : List Lexeme} {lexeme : Lexeme}
  {events : List Event}

-- The number of an item tells which lexemes are before it.
theorem eq_of_split {before' : List Lexeme} {items items' : List (Except LexicalError Lexeme)}
    (h : before.map .ok ++ items = before'.map .ok ++ items')
    (hlength : before.length = before'.length) : before = before' ∧ items = items' := by
  obtain ⟨hbefore, hitems⟩ := List.append_inj h (by simp [hlength])
  exact ⟨List.map_injective_iff.mpr (fun _ _ => Except.ok.inj) hbefore, hitems⟩

-- What a walk over the lexemes before one says about it.

theorem viable_append_iff
    (hwalk : Walk limit .window 0 (before.map Lexeme.token) events place depth) (lexeme : Lexeme) :
    Viable ((before ++ [lexeme]).map Lexeme.kind) ↔ lexeme.kind ∈ place.expected := by
  rw [map_kind_eq, List.map_append]
  exact hwalk.viable_append_iff lexeme.token

theorem isProgram_append_iff
    (hwalk : Walk limit .window 0 (before.map Lexeme.token) events place depth) (lexeme : Lexeme) :
    IsProgram ((before ++ [lexeme]).map Lexeme.kind) ↔
      place = .windowEnd ∧ lexeme.token = .period := by
  rw [map_kind_eq, List.map_append]
  exact hwalk.isProgram_append_iff lexeme.token

theorem Place.eq_widgets_of_panel_mem {place : Place}
    (h : Kind.keyword .panel ∈ place.expected) : ∃ first, place = .widgets first := by
  cases place with
  | widgets first => exact ⟨first, rfl⟩
  | radios first => cases first <;> simp [expected] at h
  | _ => simp [expected] at h

theorem viable_of_walk
    (hwalk : Walk limit .window 0 (before.map Lexeme.token) events place depth) :
    Viable (before.map Lexeme.kind) := by
  rw [map_kind_eq]
  exact hwalk.viable

-- A panel that nests too deep stands where one that nests less deep could.
theorem overdeep_of_walk {first : Bool}
    (hwalk : Walk limit .window 0 (before.map Lexeme.token) events (.widgets first) depth)
    (hpanel : lexeme.token = .keyword .panel) (hover : limit ≤ depth) :
    Viable ((before ++ [lexeme]).map Lexeme.kind) ∧
      openPanels (before.map Lexeme.kind) = limit := by
  constructor
  · rw [viable_append_iff hwalk, Lexeme.kind, hpanel]
    cases first <;> decide
  · rw [map_kind_eq, hwalk.openPanels_eq]
    exact Nat.le_antisymm hwalk.depth_le hover

theorem Place.eof_notMem_expected (place : Place) : Kind.eof ∉ place.expected := by
  cases place with
  | widgets first | radios first => cases first <;> decide
  | _ => simp [expected]

-- A lexeme that leads on decides nothing.
theorem Decision.not_of_progress {next : Place} {deeper seen : Nat} {event : Option Event}
    {outcome : Except Fault Unit} {after : List (Except LexicalError Lexeme)}
    (hwalk : Walk limit .window 0 (before.map Lexeme.token) events place depth)
    (hprogress : place.Progress limit depth lexeme.token next deeper event) :
    ¬ Decision limit (before.map .ok ++ .ok lexeme :: after) before.length seen outcome := by
  have hstep := hprogress.step_eq limit 0 (Nat.le_refl _)
  intro h
  generalize hindex : before.length = index at h
  cases h with
  | unlexable hitems =>
      obtain ⟨-, hitem⟩ := eq_of_split hitems hindex
      cases hitem
  | stray _ hitems _ hstray =>
      obtain ⟨rfl, hitem⟩ := eq_of_split hitems hindex
      cases hitem
      rw [viable_append_iff hwalk] at hstray
      cases hstep.symm.trans ((Place.step_eq_refused_iff _ _ _ _ _).mpr hstray)
  | overdeep hitems hpanel hviable hopen =>
      obtain ⟨rfl, hitem⟩ := eq_of_split hitems hindex
      cases hitem
      rw [viable_append_iff hwalk, Lexeme.kind, hpanel] at hviable
      obtain ⟨first, rfl⟩ := Place.eq_widgets_of_panel_mem hviable
      rw [map_kind_eq, hwalk.openPanels_eq] at hopen
      rw [hpanel, Place.step_panel_of_le (Nat.le_of_eq hopen.symm)] at hstep
      obtain ⟨rfl, -⟩ := Place.Step.goOn.inj hstep
      exact hprogress.expected_ne_nil rfl
  | complete hitems hprogram =>
      obtain ⟨rfl, hitem⟩ := eq_of_split hitems hindex
      cases hitem
      obtain ⟨rfl, hperiod⟩ := (isProgram_append_iff hwalk _).mp hprogram
      rw [hperiod] at hstep
      cases hstep

-- From here on some item decides, the first one that can, in the way that the reading ends,
-- and the reading looks at no item after those that are stated.
def Decided (limit : Nat) (place : Place) (depth : Nat) (waiting : Option Event)
    (before : List Lexeme) (lx : Lexemes) : Prop :=
  ∃ index count outcome, before.length ≤ index ∧
    Decision limit (lx.prepend before).items index (before.length + count) outcome ∧
    (∀ earlier seen outcome', before.length ≤ earlier → earlier < index →
      ¬ Decision limit (lx.prepend before).items earlier seen outcome') ∧
    (lx.reading limit place depth waiting).result = outcome ∧
    ∀ other : Lexemes, other.items.take count = lx.items.take count →
      other.reading limit place depth waiting = lx.reading limit place depth waiting

theorem Decided.here {lx : Lexemes} {waiting : Option Event} {count : Nat}
    {outcome : Except Fault Unit}
    (h : Decision limit (lx.prepend before).items before.length (before.length + count) outcome)
    (hresult : (lx.reading limit place depth waiting).result = outcome)
    (hother : ∀ other : Lexemes, other.items.take count = lx.items.take count →
      other.reading limit place depth waiting = lx.reading limit place depth waiting) :
    Decided limit place depth waiting before lx :=
  ⟨before.length, count, outcome, Nat.le_refl _, h, fun _ _ _ hle hlt => by omega, hresult, hother⟩

theorem Decided.unlexable {lx : Lexemes} {e : LexicalError}
    {after : List (Except LexicalError Lexeme)} (hitems : lx.items = .error e :: after)
    (waiting : Option Event) : Decided limit place depth waiting before lx := by
  refine .here (.unlexable ((Lexemes.items_prepend _ _).trans (by rw [hitems]))) ?_ fun other hother => ?_
  · rw [Lexemes.reading_of_items_error hitems]
    rfl
  · obtain ⟨after', hsame, -⟩ := Lexemes.exists_items_of_take hitems hother
    rw [Lexemes.reading_of_items_error hitems, Lexemes.reading_of_items_error hsame]

theorem Decided.stray {lx : Lexemes} {after : List (Except LexicalError Lexeme)}
    (hwalk : Walk limit .window 0 (before.map Lexeme.token) events place depth)
    (hitems : lx.items = .ok lexeme :: after) (hkind : lexeme.kind ∉ place.expected)
    (waiting : Option Event) : Decided limit place depth waiting before lx := by
  have hstray : ¬ Viable ((before ++ [lexeme]).map Lexeme.kind) := by
    rwa [viable_append_iff hwalk]
  have hsplit : (lx.prepend before).items = before.map .ok ++ .ok lexeme :: after := by
    rw [Lexemes.items_prepend, hitems]
  refine .here (.stray place.expected hsplit (viable_of_walk hwalk) hstray) ?_ fun other hother => ?_
  · rw [Lexemes.reading_of_items_ok hitems hkind,
      Place.refusal_eq_mismatch hwalk.expected_ne_nil]
    rfl
  · obtain ⟨after', hsame, -⟩ := Lexemes.exists_items_of_take hitems hother
    rw [Lexemes.reading_of_items_ok hitems hkind, Lexemes.reading_of_items_ok hsame hkind]

theorem Decided.overdeep {first : Bool} {rest : Lexemes}
    (hwalk : Walk limit .window 0 (before.map Lexeme.token) events (.widgets first) depth)
    (hpanel : lexeme.token = .keyword .panel) (hover : limit ≤ depth) (waiting : Option Event) :
    Decided limit (.widgets first) depth waiting before (.cons lexeme rest) := by
  obtain ⟨next, after, hrest⟩ := rest.items_eq_cons
  obtain ⟨hviable, hopen⟩ := overdeep_of_walk hwalk hpanel hover
  have hsplit : ((Lexemes.cons lexeme rest).prepend before).items =
      before.map .ok ++ .ok lexeme :: next :: after := by
    rw [Lexemes.items_prepend, Lexemes.items, hrest]
  have hstep (line : Nat) : (Place.widgets first).step limit depth line lexeme.token =
      .goOn (.tooDeep line) depth none := by
    rw [hpanel, Place.step_panel_of_le hover]
  have hreading (rest : Lexemes) := Lexemes.reading_cons waiting rest (hstep lexeme.position.line)
  refine .here (.overdeep hsplit hpanel hviable hopen) ?_ fun other hother => ?_
  · rw [hreading]
    cases next with
    | error e =>
        rw [Lexemes.reading_of_items_error hrest]
        rfl
    | ok l =>
        rw [Lexemes.reading_of_items_ok hrest (by simp [Place.expected])]
        rfl
  · obtain ⟨rest', rfl, hsame⟩ := Lexemes.exists_cons_of_take (by simp [hpanel]) hother
    obtain ⟨after', hrest', -⟩ := Lexemes.exists_items_of_take hrest hsame
    rw [hreading, hreading]
    cases next with
    | error e =>
        rw [Lexemes.reading_of_items_error hrest, Lexemes.reading_of_items_error hrest']
    | ok l =>
        rw [Lexemes.reading_of_items_ok hrest (by simp [Place.expected]),
          Lexemes.reading_of_items_ok hrest' (by simp [Place.expected])]

theorem Decided.complete {rest : Lexemes}
    (hwalk : Walk limit .window 0 (before.map Lexeme.token) events .windowEnd depth)
    (hperiod : lexeme.token = .period) (waiting : Option Event) :
    Decided limit .windowEnd depth waiting before (.cons lexeme rest) := by
  have hreading (rest : Lexemes) :
      (Lexemes.cons lexeme rest).reading limit .windowEnd depth waiting =
        (⟨[.perform .showWindow], .ok ()⟩ : Reading).after lexeme waiting := by
    rw [Lexemes.reading, hperiod]
    rfl
  have hprogram := (isProgram_append_iff hwalk lexeme).mpr ⟨rfl, hperiod⟩
  refine .here (.complete (Lexemes.items_prepend _ _) hprogram) ?_ fun other hother => ?_
  · rw [hreading]
    rfl
  · obtain ⟨rest', rfl, -⟩ := Lexemes.exists_cons_of_take (by simp [hperiod]) hother
    rw [hreading, hreading]

theorem Decided.onward {next : Place} {deeper : Nat} {event : Option Event} {rest : Lexemes}
    (hwalk : Walk limit .window 0 (before.map Lexeme.token) events place depth)
    (hprogress : place.Progress limit depth lexeme.token next deeper event)
    (h : Decided limit next deeper event (before ++ [lexeme]) rest) (waiting : Option Event) :
    Decided limit place depth waiting before (.cons lexeme rest) := by
  have heof : lexeme.token ≠ .eof := by
    intro heof
    have hrefused := (Place.step_eq_refused_iff limit depth 0 place .eof).mpr
      place.eof_notMem_expected
    have hstep := hprogress.step_eq limit 0 (Nat.le_refl _)
    rw [heof, hrefused] at hstep
    cases hstep
  have hreading (rest : Lexemes) := Lexemes.reading_cons waiting rest
    (hprogress.step_eq limit lexeme.position.line (Nat.le_refl _))
  obtain ⟨index, count, outcome, hindex, hdecision, hearlier, hresult, hother⟩ := h
  rw [Lexemes.prepend_append_singleton] at hdecision hearlier
  rw [List.length_append, List.length_singleton, Nat.add_assoc, Nat.add_comm 1] at hdecision
  simp only [List.length_append, List.length_singleton] at hindex hearlier
  refine ⟨index, count + 1, outcome, by omega, hdecision, ?_, ?_, fun other hsame => ?_⟩
  · intro earlier seen outcome' hle hlt hdecided
    by_cases hhere : before.length = earlier
    · subst hhere
      rw [Lexemes.items_prepend] at hdecided
      exact Decision.not_of_progress hwalk hprogress hdecided
    · exact hearlier earlier seen outcome' (by omega) hlt hdecided
  · rw [hreading]
    exact hresult
  · obtain ⟨rest', rfl, htake⟩ := Lexemes.exists_cons_of_take heof hsame
    rw [hreading, hreading, hother rest' htake]

theorem Lexemes.decided (lx : Lexemes) (waiting : Option Event)
    (hwalk : Walk limit .window 0 (before.map Lexeme.token) events place depth) :
    Decided limit place depth waiting before lx := by
  induction lx generalizing before events place depth waiting with
  | stopped e => exact .unlexable rfl waiting
  | ended position =>
      have hkind : Lexeme.kind ⟨.eof, position⟩ ∉ place.expected := place.eof_notMem_expected
      exact .stray hwalk rfl hkind waiting
  | cons lexeme rest ih =>
      cases hstep : place.step limit depth lexeme.position.line lexeme.token with
      | goOn next deeper event =>
          obtain hprogress | ⟨⟨first, rfl⟩, hpanel, hover, -⟩ := Place.step_eq_goOn hstep
          · have honward : Walk limit .window 0 ((before ++ [lexeme]).map Lexeme.token)
                (events ++ event.toList) next deeper := by
              rw [List.map_append]
              exact hwalk.append (.of_progress hprogress)
            exact .onward hwalk hprogress (ih event honward) waiting
          · exact .overdeep hwalk hpanel hover waiting
      | finished =>
          obtain ⟨rfl, hperiod⟩ := Place.step_eq_finished hstep
          exact .complete hwalk hperiod waiting
      | refused =>
          exact .stray hwalk rfl ((Place.step_eq_refused_iff _ _ _ _ _).mp hstep) waiting

-- The first item that can decide a document does, and nothing after it has a say but the item
-- after a panel that nests too deep.
theorem earliest_decision (limit : Nat) (source : String) :
    ∃ index seen outcome,
      Decision limit (Lexemes.ofText source).items index seen outcome ∧
      (∀ earlier, earlier < index → ∀ seen' outcome',
        ¬ Decision limit (Lexemes.ofText source).items earlier seen' outcome') ∧
      (∀ {σ κ γ : Type} (r : Renderer σ κ γ) (commit : Commit) (state : σ),
        (parse r ⟨commit, limit⟩ source state).value.result = outcome) ∧
      ∀ source', (Lexemes.ofText source').items.take seen =
          (Lexemes.ofText source).items.take seen →
        ∀ {σ κ γ : Type} (r : Renderer σ κ γ) (commit : Commit) (state : σ),
          parse r ⟨commit, limit⟩ source' state = parse r ⟨commit, limit⟩ source state := by
  have hstart : Walk limit .window 0 (([] : List Lexeme).map Lexeme.token) [] .window 0 := .stay
  obtain ⟨index, seen, outcome, -, hdecision, hearlier, hresult, hother⟩ :=
    (Lexemes.ofText source).decided none hstart
  rw [List.length_nil, Nat.zero_add] at hdecision
  refine ⟨index, seen, outcome, hdecision, ?_, ?_, ?_⟩
  · intro earlier hlt seen' outcome'
    exact hearlier earlier seen' outcome' (Nat.zero_le _) hlt
  · intro σ κ γ r commit state
    rw [result_parse]
    exact hresult
  · intro source' hsame σ κ γ r commit state
    have hreading : Reading.ofText limit source' = Reading.ofText limit source :=
      hother (Lexemes.ofText source') hsame
    simp only [parse, parseAtomic, parseStreaming, hreading]

end WindowDoc
