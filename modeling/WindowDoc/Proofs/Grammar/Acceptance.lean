import WindowDoc.Proofs.Grammar.Walk

namespace WindowDoc.Grammar

-- Whether tokens lead from a place, where so many panels are open, exactly to the end of a
-- document. The line matters only for a panel that nests too deep, and that leads nowhere.
def Accepts (limit : Nat) : Place → Nat → List Token → Prop
  | _, _, [] => False
  | place, depth, token :: ts =>
      match place.step limit depth 0 token with
      | .goOn next deeper _ => Accepts limit next deeper ts
      | .finished => ts = []
      | .refused => False

variable {limit depth deeper final : Nat} {place next last : Place} {ts us : List Token}
  {es : List Event}

theorem not_accepts_tooDeep {line : Nat} : ¬ Accepts limit (.tooDeep line) depth ts := by
  intro h
  cases ts <;> exact h.elim

theorem Walk.accepts_iff (h : Walk limit place depth ts es last final) :
    Accepts limit place depth (ts ++ us) ↔ Accepts limit last final us := by
  induction h with
  | stay => rfl
  | onward hstep _ ih =>
      rw [List.cons_append, Accepts, hstep 0]
      exact ih

-- What is accepted where only one kind can come next.
theorem Accepts.of_onKind {kind : Kind} {event : Option Event}
    (hstep : ∀ token, place.step limit depth 0 token = .onKind token kind (.goOn next deeper event))
    (h : Accepts limit place depth ts) :
    ∃ t us, ts = t :: us ∧ t.kind = kind ∧ Accepts limit next deeper us := by
  cases ts with
  | nil => exact h.elim
  | cons t ts =>
      rw [Accepts, hstep t] at h
      by_cases hkind : t.kind = kind
      · rw [Place.Step.onKind, if_pos hkind] at h
        exact ⟨t, ts, rfl, hkind, h⟩
      · rw [Place.Step.onKind, if_neg hkind] at h
        exact h.elim

theorem Accepts.of_onString {next : String → Place}
    (hstep : ∀ token, place.step limit depth 0 token =
      .onString token fun content => .move (next content) depth)
    (h : Accepts limit place depth ts) :
    ∃ content us, ts = .string content :: us ∧ Accepts limit (next content) depth us := by
  cases ts with
  | nil => exact h.elim
  | cons t ts =>
      rw [Accepts, hstep t] at h
      cases t with
      | string content => exact ⟨content, ts, rfl, h⟩
      | _ => exact h.elim

theorem Accepts.of_onNumber {next : Int32 → Place}
    (hstep : ∀ token, place.step limit depth 0 token =
      .onNumber token fun value => .move (next value) depth)
    (h : Accepts limit place depth ts) :
    ∃ value us, ts = .number value :: us ∧ Accepts limit (next value.toInt32) depth us := by
  cases ts with
  | nil => exact h.elim
  | cons t ts =>
      rw [Accepts, hstep t] at h
      cases t with
      | number value => exact ⟨value, ts, rfl, h⟩
      | _ => exact h.elim

-- What is accepted where one token can come next, whatever the rest.
theorem Accepts.of_onToken (wanted : Token)
    (hwanted : wanted.kind ≠ .string ∧ wanted.kind ≠ .number) {event : Option Event}
    (hstep : ∀ token, place.step limit depth 0 token =
      .onKind token wanted.kind (.goOn next deeper event))
    (h : Accepts limit place depth ts) :
    ∃ us, ts = wanted :: us ∧ Accepts limit next deeper us := by
  obtain ⟨t, us, rfl, hkind, hrest⟩ := h.of_onKind hstep
  exact ⟨us, by rw [eq_of_kind_eq hkind hwanted], hrest⟩

-- What is accepted where a text and a semicolon complete a statement.
theorem Accepts.of_text {next : String → Place} {last : Place} {event : String → Event}
    (hstep : ∀ token, place.step limit depth 0 token =
      .onString token fun content => .move (next content) depth)
    (hend : ∀ content token, (next content).step limit depth 0 token =
      .onKind token .semicolon (.goOn last depth (some (event content))))
    (h : Accepts limit place depth ts) :
    ∃ content us, ts = .string content :: .semicolon :: us ∧ Accepts limit last depth us := by
  obtain ⟨content, rest, rfl, hrest⟩ := h.of_onString hstep
  obtain ⟨us, rfl, hmore⟩ := hrest.of_onToken .semicolon (by decide) (hend content)
  exact ⟨content, us, rfl, hmore⟩

-- After the columns of a grid it ends, or two gaps follow.
theorem Accepts.gridClose {rows columns : Int32}
    (h : Accepts limit (.gridClose rows columns) depth ts) :
    ∃ us, Accepts limit (.widgets true) depth us ∧
      (ts = .closeParen :: .colon :: us ∨ ∃ horizontal vertical,
        ts = .comma :: .number horizontal :: .comma :: .number vertical :: .closeParen
          :: .colon :: us) := by
  cases ts with
  | nil => exact h.elim
  | cons t ts =>
      rw [Accepts] at h
      cases t with
      | closeParen =>
          have hcolon : Accepts limit (.layoutColon (.grid rows columns none)) depth ts := h
          obtain ⟨us, rfl, hrest⟩ := hcolon.of_onToken .colon (by decide) fun _ => rfl
          exact ⟨us, hrest, .inl rfl⟩
      | comma =>
          have hgaps : Accepts limit (.horizontalGap rows columns) depth ts := h
          obtain ⟨horizontal, ts, rfl, hcomma⟩ := hgaps.of_onNumber fun _ => rfl
          obtain ⟨ts, rfl, hvertical⟩ := hcomma.of_onToken .comma (by decide) fun _ => rfl
          have hstep (token : Token) :
              (Place.verticalGap rows columns horizontal.toInt32).step limit depth 0 token =
                .onNumber token fun vertical =>
                  .move (.gapClose rows columns ⟨horizontal.toInt32, vertical⟩) depth := rfl
          obtain ⟨vertical, ts, rfl, hclose⟩ := hvertical.of_onNumber hstep
          obtain ⟨ts, rfl, hcolon⟩ := hclose.of_onToken .closeParen (by decide) fun _ => rfl
          obtain ⟨us, rfl, hrest⟩ := hcolon.of_onToken .colon (by decide) fun _ => rfl
          exact ⟨us, hrest, .inr ⟨horizontal, vertical, rfl⟩⟩
      | _ => exact h.elim

-- From LAYOUT on there is an arrangement.
theorem Accepts.clause (h : Accepts limit .layout depth ts) :
    ∃ (a : Arrangement) (us : List Token), ts = a.clause ++ us ∧
      Accepts limit (.widgets true) depth us := by
  obtain ⟨ts, rfl, harrangement⟩ := h.of_onToken (.keyword .layout) (by decide) fun _ => rfl
  cases ts with
  | nil => exact harrangement.elim
  | cons t ts =>
      rw [Accepts] at harrangement
      cases t with
      | keyword k =>
          cases k with
          | flow =>
              have hcolon : Accepts limit (.layoutColon .flow) depth ts := harrangement
              obtain ⟨us, rfl, hrest⟩ := hcolon.of_onToken .colon (by decide) fun _ => rfl
              exact ⟨.flow, us, rfl, hrest⟩
          | grid =>
              have hgrid : Accepts limit .gridOpen depth ts := harrangement
              obtain ⟨ts, rfl, hrows⟩ := hgrid.of_onToken .openParen (by decide) fun _ => rfl
              obtain ⟨rows, ts, rfl, hcomma⟩ := hrows.of_onNumber fun _ => rfl
              obtain ⟨ts, rfl, hcolumns⟩ := hcomma.of_onToken .comma (by decide) fun _ => rfl
              obtain ⟨columns, ts, rfl, hclose⟩ := hcolumns.of_onNumber fun _ => rfl
              obtain ⟨us, hrest, rfl | ⟨horizontal, vertical, rfl⟩⟩ := hclose.gridClose
              · exact ⟨.grid rows columns none, us, rfl, hrest⟩
              · exact ⟨.grid rows columns (some (horizontal, vertical)), us, rfl, hrest⟩
          | _ => exact harrangement.elim
      | _ => exact harrangement.elim

-- After GROUP or a radio button there are radio buttons and the end of the group.
theorem Accepts.radios {first : Bool} (h : Accepts limit (.radios first) depth ts) :
    ∃ (labels : List String) (us : List Token), ts = labels.flatMap radio ++ blockEnd ++ us ∧
      (first = true → labels ≠ []) ∧ Accepts limit (.widgets false) depth us := by
  induction hlength : ts.length using Nat.strongRecOn generalizing ts first with
  | ind n ih =>
      cases ts with
      | nil => exact h.elim
      | cons t ts =>
          rw [Accepts] at h
          cases t with
          | keyword k =>
              cases k with
              | radio =>
                  have hlabel : Accepts limit .radioLabel depth ts := h
                  obtain ⟨label, ts, rfl, hmore⟩ := hlabel.of_text (fun _ => rfl) fun _ _ => rfl
                  simp only [List.length_cons] at hlength
                  obtain ⟨labels, us, rfl, -, hrest⟩ := ih ts.length (by omega) hmore rfl
                  exact ⟨label :: labels, us, rfl, fun _ => List.cons_ne_nil _ _, hrest⟩
              | finish =>
                  cases first with
                  | true => exact h.elim
                  | false =>
                      have hend : Accepts limit .groupEnd depth ts := h
                      obtain ⟨us, rfl, hrest⟩ :=
                        hend.of_onToken .semicolon (by decide) fun _ => rfl
                      exact ⟨[], us, rfl, fun hfirst => absurd hfirst (by decide), hrest⟩
              | _ => exact h.elim
          | _ => exact h.elim

-- Where the END of a block leads.
def closing (depth : Nat) : Place := if depth = 0 then .windowEnd else .panelEnd

-- Elements and the end of the block that holds them, at least one element if none was before.
def Content (limit depth : Nat) (first : Bool) (ts : List Token) : Prop :=
  ∃ (elements : List Element) (us : List Token),
    ts = Element.tokensAll elements ++ .keyword .finish :: us ∧
    (first = true → elements ≠ []) ∧
    depth + Widget.depthAll (Element.widgets elements) ≤ limit ∧
    Accepts limit (closing depth) depth us

theorem Content.cons {first : Bool} (e : Element) (h : Content limit depth false ts)
    (hdepth : depth + e.widget.depth ≤ limit) : Content limit depth first (e.tokens ++ ts) := by
  obtain ⟨es, us, rfl, -, hes, hclosing⟩ := h
  refine ⟨e :: es, us, ?_, fun _ => List.cons_ne_nil _ _, ?_, hclosing⟩
  · rw [Element.tokensAll, List.append_assoc]
  · rw [Element.widgets, Widget.depthAll]
    omega

theorem Accepts.content {first : Bool} (h : Accepts limit (.widgets first) depth ts)
    (hdepth : depth ≤ limit) : Content limit depth first ts := by
  induction hlength : ts.length using Nat.strongRecOn generalizing ts first depth with
  | ind n ih =>
      cases ts with
      | nil => exact h.elim
      | cons t ts =>
          simp only [List.length_cons] at hlength
          rw [Accepts] at h
          cases t with
          | keyword k =>
              cases k with
              | button =>
                  have hlabel : Accepts limit .buttonLabel depth ts := h
                  obtain ⟨caption, ts, rfl, hmore⟩ := hlabel.of_text (fun _ => rfl) fun _ _ => rfl
                  simp only [List.length_cons] at hlength
                  have hrest := ih ts.length (by omega) hmore hdepth rfl
                  exact hrest.cons (.button caption) hdepth
              | label =>
                  have htext : Accepts limit .labelText depth ts := h
                  obtain ⟨text, ts, rfl, hmore⟩ := htext.of_text (fun _ => rfl) fun _ _ => rfl
                  simp only [List.length_cons] at hlength
                  have hrest := ih ts.length (by omega) hmore hdepth rfl
                  exact hrest.cons (.label text) hdepth
              | textField =>
                  have hcolumns : Accepts limit .fieldColumns depth ts := h
                  obtain ⟨columns, ts, rfl, hend⟩ := hcolumns.of_onNumber fun _ => rfl
                  obtain ⟨ts, rfl, hmore⟩ := hend.of_onToken .semicolon (by decide) fun _ => rfl
                  simp only [List.length_cons] at hlength
                  have hrest := ih ts.length (by omega) hmore hdepth rfl
                  exact hrest.cons (.textField columns) hdepth
              | group =>
                  have hradios : Accepts limit (.radios true) depth ts := h
                  obtain ⟨labels, us, rfl, hne, hmore⟩ := hradios.radios
                  obtain ⟨label, labels, rfl⟩ := List.exists_cons_of_ne_nil (hne rfl)
                  simp only [List.length_append] at hlength
                  have hrest := ih us.length (by omega) hmore hdepth rfl
                  exact hrest.cons (.group label labels) hdepth
              | panel =>
                  by_cases hlt : depth < limit
                  · have hstep : (Place.widgets first).step limit depth 0 (.keyword .panel) =
                        .goOn .layout (depth + 1) (some .openPanel) := if_pos hlt
                    rw [hstep] at h
                    obtain ⟨a, us, rfl, hwidgets⟩ := Accepts.clause h
                    simp only [List.length_append] at hlength
                    obtain ⟨es, vs, rfl, hne, hes, hclosing⟩ :=
                      ih us.length (by omega) hwidgets hlt rfl
                    obtain ⟨e, es, rfl⟩ := List.exists_cons_of_ne_nil (hne rfl)
                    have hend : Accepts limit .panelEnd (depth + 1) vs := hclosing
                    obtain ⟨ws, rfl, hmore⟩ := hend.of_onToken .semicolon (by decide) fun _ => rfl
                    simp only [List.length_append, List.length_cons] at hlength
                    have hrest := ih ws.length (by omega) hmore hdepth rfl
                    have hpanel : depth + (Element.panel a e es).widget.depth ≤ limit := by
                      simp only [Element.widget, Element.widgets, Widget.depth,
                        Widget.depthAll] at hes ⊢
                      omega
                    simpa [Element.tokens, Element.tokensAll, blockEnd] using
                      hrest.cons (.panel a e es) hpanel
                  · rw [Place.step_panel_of_le (Nat.le_of_not_lt hlt)] at h
                    exact absurd h not_accepts_tooDeep
              | finish =>
                  cases first with
                  | true => exact h.elim
                  | false => exact ⟨[], ts, rfl, fun hfirst => absurd hfirst (by decide), hdepth, h⟩
              | _ => exact h.elim
          | _ => exact h.elim

theorem Accepts.eq_period (h : Accepts limit .windowEnd depth ts) : ts = [.period] := by
  cases ts with
  | nil => exact h.elim
  | cons t ts =>
      rw [Accepts] at h
      cases t with
      | period => rw [show ts = [] from h]
      | _ => exact h.elim

-- Reading from the beginning accepts the documents whose panels nest as deep as the limit
-- allows, and nothing else.
theorem accepts_iff (limit : Nat) (ts : List Token) :
    Accepts limit .window 0 ts ↔ ∃ d : Document, ts = d.tokens ∧ d.window.depth ≤ limit := by
  constructor
  · intro h
    obtain ⟨ts, rfl, htitle⟩ := h.of_onToken (.keyword .window) (by decide) fun _ => rfl
    obtain ⟨title, ts, rfl, hopen⟩ := htitle.of_onString fun _ => rfl
    obtain ⟨ts, rfl, hwidth⟩ := hopen.of_onToken .openParen (by decide) fun _ => rfl
    obtain ⟨width, ts, rfl, hcomma⟩ := hwidth.of_onNumber fun _ => rfl
    obtain ⟨ts, rfl, hheight⟩ := hcomma.of_onToken .comma (by decide) fun _ => rfl
    obtain ⟨height, ts, rfl, hclose⟩ := hheight.of_onNumber fun _ => rfl
    obtain ⟨ts, rfl, hlayout⟩ := hclose.of_onToken .closeParen (by decide) fun _ => rfl
    obtain ⟨a, ts, rfl, hwidgets⟩ := hlayout.clause
    obtain ⟨es, us, rfl, hne, hes, hclosing⟩ := hwidgets.content (Nat.zero_le _)
    obtain ⟨e, es, rfl⟩ := List.exists_cons_of_ne_nil (hne rfl)
    have hend : Accepts limit .windowEnd 0 us := hclosing
    obtain rfl := hend.eq_period
    refine ⟨⟨title, width, height, a, e, es⟩, ?_, ?_⟩
    · simp [Document.tokens, Element.tokensAll]
    · simpa [Document.window, Window.depth, Element.widgets] using hes
  · rintro ⟨d, rfl, hdepth⟩
    obtain ⟨front, events, htokens, -, hwalk⟩ := d.walk hdepth
    rw [htokens, hwalk.accepts_iff]
    rfl

end WindowDoc.Grammar
