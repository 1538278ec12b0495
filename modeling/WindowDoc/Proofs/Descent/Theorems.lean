import WindowDoc.Proofs.Descent.Basic

namespace WindowDoc

namespace Rule

variable {reader : Reader} {tried : List Kind} {limit depth : Nat} {place next : Place}
  {event waiting : Option Event}

theorem reads_gaps {rows columns : Int32} {go : Gaps → Rule Unit}
    (h : ∀ gaps after, Beyond reader after →
      Reads limit (.layoutColon (.grid rows columns (some gaps))) depth none (go gaps)
        (after.having [])) :
    Reads limit (.horizontalGap rows columns) depth none (gaps >>= go) (reader.having []) := by
  unfold gaps
  simp only [bind_assoc, pure_bind]
  refine reads_expectNumber rfl (fun _ _ => rfl) fun horizontal r₁ h₁ => ?_
  have hvertical (line : Nat) (token : Token) :
      (Place.verticalGap rows columns horizontal).step limit depth line token =
        .onNumber token fun n => .move (.gapClose rows columns ⟨horizontal, n⟩) depth := rfl
  refine reads_expect_only rfl (fun _ _ => rfl) fun r₂ h₂ => ?_
  refine reads_expectNumber rfl hvertical fun vertical r₃ h₃ => ?_
  refine reads_expect_only rfl (fun _ _ => rfl) fun r₄ h₄ => ?_
  exact h ⟨horizontal, vertical⟩ r₄ (((h₁.trans h₂).trans h₃).trans h₄)

theorem reads_arrangement {go : Layout → Rule Unit}
    (h : ∀ layout after, Beyond reader after →
      Reads limit (.layoutColon layout) depth none (go layout) (after.having [])) :
    Reads limit .arrangement depth none (arrangement >>= go) (reader.having []) := by
  unfold arrangement
  rw [bind_assoc]
  have hflow (hkind : reader.lexeme.kind = .keyword .flow) :
      reader.step limit .arrangement depth = .goOn (.layoutColon .flow) depth none :=
    step_of_kind (.keyword .flow) hkind (by decide)
  refine reads_eat rfl hflow (fun r₁ h₁ => ?_) fun hnoflow => ?_
  · simp only [if_true, pure_bind]
    exact h _ r₁ h₁
  simp only [Bool.false_eq_true, if_false, bind_assoc]
  have hgrid (hkind : reader.lexeme.kind = .keyword .grid) :
      reader.step limit .arrangement depth = .goOn .gridOpen depth none :=
    step_of_kind (.keyword .grid) hkind (by decide)
  refine reads_eat rfl hgrid (fun r₁ h₁ => ?_) fun hnogrid => ?_
  · simp only [if_true, bind_assoc]
    refine reads_expect_only rfl (fun _ _ => rfl) fun r₂ h₂ => ?_
    refine reads_expectNumber rfl (fun _ _ => rfl) fun rows r₃ h₃ => ?_
    refine reads_expect_only rfl (fun _ _ => rfl) fun r₄ h₄ => ?_
    refine reads_expectNumber rfl (fun _ _ => rfl) fun columns r₅ h₅ => ?_
    have hbeyond := (((h₁.trans h₂).trans h₃).trans h₄).trans h₅
    have hclose (hkind : r₅.lexeme.kind = .closeParen) :
        r₅.step limit (.gridClose rows columns) depth =
          .goOn (.layoutColon (.grid rows columns none)) depth none :=
      step_of_kind .closeParen hkind (by decide)
    refine reads_eat rfl hclose (fun r₆ h₆ => ?_) fun hnoclose => ?_
    · simp only [if_true, pure_bind]
      exact h _ r₆ (hbeyond.trans h₆)
    simp only [Bool.false_eq_true, if_false, bind_assoc]
    have hcomma (hkind : r₅.lexeme.kind = .comma) :
        r₅.step limit (.gridClose rows columns) depth =
          .goOn (.horizontalGap rows columns) depth none :=
      step_of_kind .comma hkind (by decide)
    refine reads_eat rfl hcomma (fun r₆ h₆ => ?_) fun hnocomma => ?_
    · simp only [if_true, bind_assoc, pure_bind]
      exact reads_gaps fun gaps r₇ h₇ => h _ r₇ ((hbeyond.trans h₆).trans h₇)
    · have hrefused : r₅.lexeme.kind ∉ (Place.gridClose rows columns).expected := by
        simp [Place.expected, hnoclose, hnocomma]
      exact reads_unexpected (List.cons_ne_nil _ _) hrefused
  · have hrefused : reader.lexeme.kind ∉ Place.arrangement.expected := by
      simp [Place.expected, hnoflow, hnogrid]
    exact reads_unexpected (List.cons_ne_nil _ _) hrefused

theorem reads_layout {go : Unit → Rule Unit}
    (h : ∀ after, Beyond reader after →
      Reads limit (.widgets true) depth none (go ()) (after.having [])) :
    Reads limit .layout depth none (layout >>= go) (reader.having []) := by
  unfold layout
  simp only [bind_assoc]
  refine reads_expect_only rfl (fun _ _ => rfl) fun r₁ h₁ => ?_
  refine reads_arrangement fun layout r₂ h₂ => ?_
  refine reads_expect_only rfl (fun _ _ => rfl) fun r₃ h₃ => ?_
  exact reads_perform (h _ (((h₁.trans h₂).trans h₃).perform _))

theorem reads_statement {α : Type} {content : Rule α} {effect : α → Event} {last : Place}
    {go : Unit → Rule Unit} {closing : α → Place}
    (hcontent : ∀ {go : α → Rule Unit}, (∀ value after, Beyond reader after →
        Reads limit (closing value) depth none (go value) (after.having [])) →
      Reads limit place depth none (content >>= go) (reader.having []))
    (hexpected : ∀ value, (closing value).expected = [.semicolon])
    (hstep : ∀ value line token, (closing value).step limit depth line token =
      .onKind token .semicolon (.goOn last depth (some (effect value))))
    (h : ∀ after, Beyond reader after → Reads limit last depth none (go ()) (after.having [])) :
    Reads limit place depth none (statement content effect >>= go) (reader.having []) := by
  unfold statement
  simp only [bind_assoc]
  refine hcontent fun value r₁ h₁ => ?_
  refine reads_expect_only (hexpected value) (hstep value) fun r₂ h₂ => ?_
  exact reads_perform (h _ ((h₁.trans h₂).perform _))

theorem reads_blockEnd {go : Unit → Rule Unit} {final : Nat}
    (hexpected : place.expected = (Kind.keyword .finish).addTo tried)
    (htried : reader.lexeme.kind ∉ tried)
    (hstep : reader.lexeme.kind = .keyword .finish →
      reader.step limit place depth = .goOn next depth none)
    (hend : next.expected = [.semicolon])
    (hclose : ∀ line token, next.step limit depth line token =
      .onKind token .semicolon (.goOn (.widgets false) final event))
    (h : ∀ after, Beyond reader after →
      Reads limit (.widgets false) final event (go ()) (after.having [])) :
    Reads limit place depth none (blockEnd >>= go) (reader.having tried) := by
  unfold blockEnd
  rw [bind_assoc]
  refine reads_expect (fun _ => ⟨hexpected, htried⟩) hstep fun r₁ h₁ => ?_
  exact reads_expect_only hend hclose fun r₂ h₂ => h r₂ (h₁.trans h₂)

theorem reads_anyOf {go : Bool → Rule Unit} {kinds : List Kind}
    (hfound : reader.lexeme.kind ∈ kinds → ∀ tried,
      Reads limit place depth waiting (go true) (reader.having tried))
    (hmissed : reader.lexeme.kind ∉ kinds →
      Reads limit place depth waiting (go false)
        (reader.having (kinds.foldl (fun tried kind => kind.addTo tried) tried))) :
    Reads limit place depth waiting (anyOf kinds >>= go) (reader.having tried) := by
  induction kinds generalizing tried with
  | nil => exact hmissed List.not_mem_nil
  | cons kind kinds ih =>
      rw [anyOf, bind_assoc]
      refine reads_check rfl (fun hkind => ?_) fun hkind => ?_
      · exact hfound (hkind ▸ List.mem_cons_self) tried
      · refine ih (fun hmem => hfound (List.mem_cons_of_mem _ hmem)) fun hnone => ?_
        exact hmissed (by simp [hkind, hnone])

-- A rule that reads one of several things where one may stand. After the first of them it has been
-- seen that there is one.
def ReadsOne (limit : Nat) (place : Bool → Place) (depth : Nat) (starts : List Kind)
    (rule : Rule Unit) : Prop :=
  ∀ ⦃reader : Reader⦄ ⦃first : Bool⦄ ⦃tried : List Kind⦄ ⦃go : Unit → Rule Unit⦄,
    reader.depth = depth → first = true ∧ tried = [] ∨ reader.lexeme.kind ∈ starts →
    (∀ after, Beyond reader after →
      Reads limit (place false) depth none (go ()) (after.having [])) →
    Reads limit (place first) depth none (rule >>= go) (reader.having tried)

-- A rule that reads all of them, up to a lexeme that none begins with.
def ReadsAll (limit : Nat) (place : Bool → Place) (depth : Nat) (starts : List Kind)
    (rule : Rule Unit) : Prop :=
  ∀ ⦃reader : Reader⦄ ⦃go : Unit → Rule Unit⦄, reader.depth = depth →
    (∀ after, Beyond reader after → after.lexeme.kind ∉ starts →
      Reads limit (place false) depth none (go ()) (after.having starts)) →
    Reads limit (place true) depth none (rule >>= go) (reader.having [])

section Loop

variable {places : Bool → Place} {starts : List Kind} {rule : Rule Unit}

theorem ReadsOne.reads_repeatedly (hrule : ReadsOne limit places depth starts rule)
    (hstarts : starts.foldl (fun tried kind => kind.addTo tried) [] = starts) {rounds : Nat}
    {go : Unit → Rule Unit} (hrounds : reader.remaining < rounds) (hdepth : reader.depth = depth)
    (h : ∀ after, after = reader ∨ Beyond reader after → after.lexeme.kind ∉ starts →
      Reads limit (places false) depth none (go ()) (after.having starts)) :
    Reads limit (places false) depth none (repeatedly starts rule rounds >>= go)
      (reader.having []) := by
  induction rounds generalizing reader with
  | zero => exact absurd hrounds (Nat.not_lt_zero _)
  | succ rounds ih =>
      rw [repeatedly, bind_assoc]
      refine reads_anyOf (fun hkind tried => ?_) fun hkind => ?_
      · simp only [if_true, bind_assoc]
        refine hrule hdepth (.inr hkind) fun r₁ h₁ => ?_
        have hleft : r₁.remaining < rounds :=
          Nat.lt_of_lt_of_le h₁.remaining (Nat.le_of_lt_succ hrounds)
        exact ih hleft (h₁.depth.trans hdepth) fun r₂ h₂ => h r₂ (.inr (h₁.trans_or h₂))
      · rw [hstarts]
        exact h reader (.inl rfl) hkind

theorem ReadsOne.oneOrMore (hrule : ReadsOne limit places depth starts rule)
    (hstarts : starts.foldl (fun tried kind => kind.addTo tried) [] = starts) :
    ReadsAll limit places depth starts (oneOrMore starts rule) := by
  intro reader go hdepth h
  unfold Rule.oneOrMore
  rw [bind_assoc]
  refine hrule hdepth (.inl ⟨rfl, rfl⟩) fun r₁ h₁ => ?_
  rw [bind_assoc]
  apply reads_get
  exact hrule.reads_repeatedly hstarts (Nat.lt_succ_self _) (h₁.depth.trans hdepth)
    fun r₂ h₂ => h r₂ (h₁.trans_or h₂)

end Loop

theorem readsOne_radioButton :
    ReadsOne limit .radios depth [.keyword .radio] radioButton := by
  intro reader first tried go _ hentry h
  have hradio (hkind : reader.lexeme.kind = .keyword .radio) :
      reader.step limit (.radios first) depth = .goOn .radioLabel depth none :=
    step_of_kind (.keyword .radio) hkind (by decide)
  unfold radioButton
  simp only [bind_assoc]
  refine reads_expect (fun hne => ?_) hradio fun r₁ h₁ => ?_
  · obtain ⟨rfl, rfl⟩ := hentry.resolve_right (by simpa using hne)
    exact ⟨rfl, List.not_mem_nil⟩
  refine reads_statement (reads_expectString rfl fun _ _ => rfl) (fun _ => rfl)
    (fun _ _ _ => rfl) fun r₂ h₂ => ?_
  exact h r₂ (h₁.trans h₂)

theorem readsAll_radioButtons :
    ReadsAll limit .radios depth [.keyword .radio] radioButtons :=
  readsOne_radioButton.oneOrMore (by decide)

theorem reads_group {go : Unit → Rule Unit} (hdepth : reader.depth = depth)
    (h : ∀ after, Beyond reader after →
      Reads limit (.widgets false) depth none (go ()) (after.having [])) :
    Reads limit (.radios true) depth (some .openGroup) (group >>= go) (reader.having []) := by
  have hfinish {last : Reader} (hkind : last.lexeme.kind = .keyword .finish) :
      last.step limit (.radios false) depth = .goOn .groupEnd depth none :=
    step_of_kind (.keyword .finish) hkind (by decide)
  unfold group
  simp only [bind_assoc]
  refine reads_perform (readsAll_radioButtons hdepth fun r₁ h₁ hnoradio => ?_)
  refine reads_blockEnd rfl hnoradio hfinish rfl (fun _ _ => rfl) fun r₂ h₂ => ?_
  exact reads_perform (h _ ⟨(h₁.trans h₂).depth, (h₁.trans h₂).remaining⟩)

-- A panel that the limit does not allow ends the reading.
theorem reads_panel_of_le {inner : Rule Unit} {go : Unit → Rule Unit} {line : Nat}
    (hdepth : reader.depth = depth) (hover : limit ≤ depth) :
    Reads limit (.tooDeep line) depth none (panel limit line inner >>= go)
      (reader.having tried) := by
  unfold panel
  rw [bind_assoc]
  apply reads_get
  rw [Reader.depth_having, hdepth, if_pos hover]
  unfold Reads
  rw [follow_bind]
  simp [Reader.having, Lexemes.onward, Place.step, Place.refusal, Reading.stop, Reading.since]

theorem reads_panel_of_lt {inner : Rule Unit} {go : Unit → Rule Unit} {line : Nat}
    (hinner : ReadsAll limit .widgets (depth + 1) Place.widgetStarts inner)
    (hdepth : reader.depth = depth) (hroom : depth < limit)
    (h : ∀ after, Beyond reader after →
      Reads limit (.widgets false) depth none (go ()) (after.having [])) :
    Reads limit .layout (depth + 1) (some .openPanel) (panel limit line inner >>= go)
      (reader.having []) := by
  have hfinish {last : Reader} (hkind : last.lexeme.kind = .keyword .finish) :
      last.step limit (.widgets false) (depth + 1) = .goOn .panelEnd (depth + 1) none :=
    step_of_kind (.keyword .finish) hkind (by decide)
  unfold panel
  rw [bind_assoc]
  apply reads_get
  rw [Reader.depth_having, hdepth, if_neg (Nat.not_le_of_lt hroom)]
  simp only [bind_assoc]
  refine reads_perform (reads_enter (reads_layout fun r₁ h₁ => ?_))
  have hnested : r₁.depth = depth + 1 := h₁.depth.trans (congrArg (· + 1) hdepth)
  refine hinner hnested fun r₂ h₂ hstart => ?_
  apply reads_leave
  refine reads_blockEnd rfl hstart hfinish rfl (fun _ _ => rfl) fun r₃ h₃ => ?_
  have hback : r₃.depth = reader.depth := by
    rw [h₃.depth, hdepth]
    exact (congrArg (· - 1) (h₂.depth.trans hnested)).trans (Nat.add_sub_cancel ..)
  have hremaining : r₃.remaining < reader.remaining :=
    Nat.lt_trans h₃.remaining (Nat.lt_trans h₂.remaining h₁.remaining)
  exact reads_perform (h _ ⟨hback, hremaining⟩)

-- The keyword of a panel leads to the one or the other.
theorem reads_bump_panel {inner : Rule Unit} {go : Unit → Rule Unit} {first : Bool}
    (hkind : reader.lexeme.kind = .keyword .panel)
    (hinner : depth < limit → ReadsAll limit .widgets (depth + 1) Place.widgetStarts inner)
    (hdepth : reader.depth = depth)
    (h : ∀ after, Beyond reader after →
      Reads limit (.widgets false) depth none (go ()) (after.having [])) :
    Reads limit (.widgets first) depth none
      (bump >>= fun _ => panel limit reader.lexeme.position.line inner >>= go)
      (reader.having tried) := by
  have hstep : reader.step limit (.widgets first) depth =
      (Place.widgets first).step limit depth reader.lexeme.position.line (.keyword .panel) :=
    step_of_kind (.keyword .panel) hkind (by decide)
  by_cases hover : limit ≤ depth
  · rw [Place.step_panel_of_le hover] at hstep
    exact reads_bump hstep fun r₁ h₁ => reads_panel_of_le (h₁.depth.trans hdepth) hover
  · have hroom : depth < limit := Nat.lt_of_not_le hover
    have hnest : reader.step limit (.widgets first) depth =
        .goOn .layout (depth + 1) (some .openPanel) := hstep.trans (if_pos hroom)
    refine reads_bump hnest fun r₁ h₁ => ?_
    exact reads_panel_of_lt (hinner hroom) (h₁.depth.trans hdepth) hroom
      fun r₂ h₂ => h r₂ (h₁.trans h₂)

-- The keywords are tried one after the other, so that each test is made with those before it missed.
theorem readsOne_widget {inner : Rule Unit} (hinner : depth < limit →
      ReadsAll limit .widgets (depth + 1) Place.widgetStarts inner) :
    ReadsOne limit .widgets depth Place.widgetStarts (widget limit inner) := by
  intro reader first tried go hdepth hentry h
  rw [widget, bind_assoc]
  apply reads_get
  simp only [bind_assoc]
  have hbutton (hkind : reader.lexeme.kind = .keyword .button) :
      reader.step limit (.widgets first) depth = .goOn .buttonLabel depth none :=
    step_of_kind (.keyword .button) hkind (by decide)
  refine reads_eat rfl hbutton (fun r₁ h₁ => ?_) fun hnobutton => ?_
  · simp only [if_true]
    refine reads_statement (reads_expectString rfl fun _ _ => rfl) (fun _ => rfl)
      (fun _ _ _ => rfl) fun r₂ h₂ => ?_
    exact h r₂ (h₁.trans h₂)
  simp only [Bool.false_eq_true, if_false, bind_assoc]
  have hgroup (hkind : reader.lexeme.kind = .keyword .group) :
      reader.step limit (.widgets first) depth = .goOn (.radios true) depth (some .openGroup) :=
    step_of_kind (.keyword .group) hkind (by decide)
  refine reads_eat rfl hgroup (fun r₁ h₁ => ?_) fun hnogroup => ?_
  · simp only [if_true]
    exact reads_group (h₁.depth.trans hdepth) fun r₂ h₂ => h r₂ (h₁.trans h₂)
  simp only [Bool.false_eq_true, if_false, bind_assoc]
  have hlabel (hkind : reader.lexeme.kind = .keyword .label) :
      reader.step limit (.widgets first) depth = .goOn .labelText depth none :=
    step_of_kind (.keyword .label) hkind (by decide)
  refine reads_eat rfl hlabel (fun r₁ h₁ => ?_) fun hnolabel => ?_
  · simp only [if_true]
    refine reads_statement (reads_expectString rfl fun _ _ => rfl) (fun _ => rfl)
      (fun _ _ _ => rfl) fun r₂ h₂ => ?_
    exact h r₂ (h₁.trans h₂)
  simp only [Bool.false_eq_true, if_false, bind_assoc]
  refine reads_eat_bump rfl (fun hkind => ?_) fun hnopanel => ?_
  · simp only [if_true, Reader.lexeme_having]
    exact reads_bump_panel hkind hinner hdepth h
  simp only [Bool.false_eq_true, if_false, bind_assoc]
  have hfield (hkind : reader.lexeme.kind = .keyword .textField) :
      reader.step limit (.widgets first) depth = .goOn .fieldColumns depth none :=
    step_of_kind (.keyword .textField) hkind (by decide)
  refine reads_eat rfl hfield (fun r₁ h₁ => ?_) fun hnofield => ?_
  · simp only [if_true]
    refine reads_statement (reads_expectNumber rfl fun _ _ => rfl) (fun _ => rfl)
      (fun _ _ _ => rfl) fun r₂ h₂ => ?_
    exact h r₂ (h₁.trans h₂)
  simp only [Bool.false_eq_true, if_false]
  have hnostart : reader.lexeme.kind ∉ Place.widgetStarts := by
    simp [Place.widgetStarts, hnobutton, hnogroup, hnolabel, hnopanel, hnofield]
  obtain ⟨rfl, rfl⟩ := hentry.resolve_right hnostart
  exact reads_unexpected (by simp [Place.expected, Place.widgetStarts]) hnostart

-- There is room for all panels that the limit allows.
theorem readsAll_widgets {room : Nat} (hdepth : depth ≤ limit) (hroom : limit < depth + room) :
    ReadsAll limit .widgets depth Place.widgetStarts (widgets limit room) := by
  induction room generalizing depth with
  | zero => exact absurd hroom (Nat.not_lt_of_le hdepth)
  | succ room ih =>
      have hone : ReadsOne limit .widgets depth Place.widgetStarts
          (widget limit (widgets limit room)) :=
        readsOne_widget fun hlt => ih hlt (by omega)
      rw [widgets]
      exact hone.oneOrMore (by decide)

theorem reads_finished (hkind : reader.lexeme.kind = .period) :
    Reads limit .windowEnd depth none (perform .showWindow) (reader.having tried) := by
  have honward : reader.rest.onward limit .windowEnd depth reader.lexeme =
      ⟨[.perform .showWindow], .ok ()⟩ := by
    have hstep : reader.step limit .windowEnd depth = .finished := if_pos hkind
    rw [Lexemes.onward, ← Reader.step, hstep]
  change (perform .showWindow).follow _ =
    some ((reader.rest.onward limit .windowEnd depth reader.lexeme).since _)
  rw [honward]
  simp [Reading.since, Reader.having]
  rfl

theorem reads_program (hdepth : reader.depth = 0) :
    Reads limit .window 0 none (program limit) (reader.having []) := by
  unfold program
  refine reads_expect_only rfl (fun _ _ => rfl) fun r₁ h₁ => ?_
  refine reads_expectString rfl (fun _ _ => rfl) fun title r₂ h₂ => ?_
  refine reads_expect_only rfl (fun _ _ => rfl) fun r₃ h₃ => ?_
  refine reads_expectNumber rfl (fun _ _ => rfl) fun width r₄ h₄ => ?_
  refine reads_expect_only rfl (fun _ _ => rfl) fun r₅ h₅ => ?_
  refine reads_expectNumber rfl (fun _ _ => rfl) fun height r₆ h₆ => ?_
  refine reads_expect_only rfl (fun _ _ => rfl) fun r₇ h₇ => ?_
  refine reads_perform (reads_layout fun r₈ h₈ => ?_)
  have hgrown := (((h₁.trans h₂).trans h₃).trans h₄).trans ((h₅.trans h₆).trans h₇)
  have hdepth₈ : r₈.depth = 0 := ((hgrown.perform _).trans h₈).depth.trans hdepth
  refine readsAll_widgets (Nat.zero_le limit) (by omega) hdepth₈ fun r₉ h₉ hstart => ?_
  have hfinish (hkind : r₉.lexeme.kind = .keyword .finish) :
      r₉.step limit (.widgets false) 0 = .goOn .windowEnd 0 none :=
    step_of_kind (.keyword .finish) hkind (by decide)
  refine reads_expect (fun _ => ⟨rfl, hstart⟩) hfinish fun r₁₀ h₁₀ => ?_
  refine reads_check rfl (fun hkind => ?_) fun hkind => ?_
  · simp only [if_true]
    exact reads_finished hkind
  · simp only [Bool.false_eq_true, if_false]
    rw [← bind_pure unexpected]
    exact reads_unexpected (by simp [Place.expected]) (by simpa [Place.expected] using hkind)

end Rule

-- The rules end on every document, and what happens is what happens when it is read by places.
theorem Lexemes.descend_eq_reading (limit : Nat) (lexemes : Lexemes) :
    lexemes.descend limit = some (lexemes.reading limit .window 0 none) := by
  rw [descend, reading_eq_pull]
  cases lexemes.pull with
  | error e => rfl
  | ok answer =>
      obtain ⟨lexeme, rest⟩ := answer
      have hreads : Rule.Reads limit .window 0 none (Rule.program limit)
          ((Reader.start lexeme rest).having []) := Rule.reads_program rfl
      exact hreads

-- What a stray lexeme has been tested for in vain are the kinds that its place expects, in the
-- same order.
theorem Lexemes.expected_of_descend {limit : Nat} {lexemes : Lexemes} {acts : List Act}
    {e : Mismatch} (h : lexemes.descend limit = some ⟨acts, .error (.mismatch e)⟩) :
    ∃ (before : List Lexeme) (lexeme : Lexeme) (after : List (Except LexicalError Lexeme))
        (events : List Event) (place : Place) (depth : Nat),
      lexemes.items = before.map .ok ++ .ok lexeme :: after ∧
      Grammar.Walk limit .window 0 (before.map Lexeme.token) events place depth ∧
      e = ⟨lexeme.position, place.expected, lexeme.kind⟩ := by
  rw [descend_eq_reading, Option.some.injEq] at h
  have hresult : (lexemes.reading limit .window 0 none).result = .error (.mismatch e) := by rw [h]
  obtain ⟨before, lexeme, after, events, place, depth, hitems, hwalk, -, he⟩ :=
    exists_place_of_mismatch hresult
  exact ⟨before, lexeme, after, events, place, depth, hitems, hwalk, he⟩

end WindowDoc
