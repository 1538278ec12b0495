import WindowDoc.Proofs.Completion
import WindowDoc.Proofs.Grammar.Enactment
import WindowDoc.Proofs.Standstill

namespace WindowDoc

open Grammar

-- Where a fault cuts off the calls of a document: those of the lexemes with a lower number have
-- been made. What a lexeme triggers waits for the next lexeme, and so it is lost if that one
-- cannot be read.
inductive CutOff (limit : Nat) (items : List (Except LexicalError Lexeme)) :
    Fault → Nat → Prop where
  | lexical {before : List Lexeme} {e after} : items = before.map .ok ++ .error e :: after →
      CutOff limit items (.lexical e) (before.length - 1)
  | mismatch {before : List Lexeme} {lexeme after} (expected : List Kind) :
      items = before.map .ok ++ .ok lexeme :: after →
      Viable (before.map Lexeme.kind) → ¬ Viable ((before ++ [lexeme]).map Lexeme.kind) →
      CutOff limit items (.mismatch ⟨lexeme.position, expected, lexeme.kind⟩) before.length
  -- the first keyword that opens one panel too many
  | nesting {before : List Lexeme} {lexeme after} :
      items = before.map .ok ++ .ok lexeme :: after →
      Viable ((before ++ [lexeme]).map Lexeme.kind) → lexeme.token = .keyword .panel →
      openPanels (before.map Lexeme.kind) = limit →
      (∀ front panel more, before = front ++ panel :: more → panel.token = .keyword .panel →
        openPanels (front.map Lexeme.kind) < limit) →
      CutOff limit items (.nestingTooDeep lexeme.position.line limit) before.length

-- Two splits of the same items are one, or the shorter one is at a lexeme of the longer one.
theorem compare_splits {items : List (Except LexicalError Lexeme)} {before before' : List Lexeme}
    {item item' : Except LexicalError Lexeme} {after after' : List (Except LexicalError Lexeme)}
    (h : items = before.map .ok ++ item :: after)
    (h' : items = before'.map .ok ++ item' :: after') :
    before = before' ∨ (∃ l more, item = .ok l ∧ before' = before ++ l :: more) ∨
      ∃ l more, item' = .ok l ∧ before = before' ++ l :: more := by
  induction before generalizing before' items with
  | nil =>
      cases before' with
      | nil => exact .inl rfl
      | cons l more =>
          cases h.symm.trans h'
          exact .inr (.inl ⟨l, more, rfl, rfl⟩)
  | cons l before ih =>
      cases before' with
      | nil =>
          cases h.symm.trans h'
          exact .inr (.inr ⟨l, before, rfl, rfl⟩)
      | cons m before' =>
          obtain ⟨hhead, htail⟩ := List.cons.inj (h.symm.trans h')
          obtain rfl := Except.ok.inj hhead
          obtain rfl | ⟨l', more, hitem, rfl⟩ | ⟨l', more, hitem, rfl⟩ := ih htail.symm rfl
          · exact .inl rfl
          · exact .inr (.inl ⟨l', more, hitem, rfl⟩)
          · exact .inr (.inr ⟨l', more, hitem, rfl⟩)

theorem Grammar.Viable.of_longer {front more : List Lexeme} {l : Lexeme}
    (h : Viable ((front ++ l :: more).map Lexeme.kind)) :
    Viable ((front ++ [l]).map Lexeme.kind) := by
  obtain ⟨d, hbegin⟩ := h
  rw [List.append_cons, List.map_append] at hbegin
  exact ⟨d, (List.prefix_append _ _).trans hbegin⟩

-- A fault tells where it cuts off.
theorem CutOff.unique {limit j k : Nat} {items : List (Except LexicalError Lexeme)} {fault : Fault}
    (h : CutOff limit items fault j) (h' : CutOff limit items fault k) : j = k := by
  generalize hfault : fault = other at h'
  cases h with
  | lexical hitems =>
      cases h' with
      | lexical hitems' =>
          obtain rfl | ⟨l, more, hitem, -⟩ | ⟨l, more, hitem, -⟩ := compare_splits hitems hitems'
          · rfl
          · cases hitem
          · cases hitem
      | mismatch | nesting => cases hfault
  | mismatch expected hitems hviable hstray =>
      cases h' with
      | mismatch expected' hitems' hviable' hstray' =>
          obtain rfl | ⟨l, more, hitem, rfl⟩ | ⟨l, more, hitem, rfl⟩ :=
            compare_splits hitems hitems'
          · rfl
          · cases hitem
            exact absurd hviable'.of_longer hstray
          · cases hitem
            exact absurd hviable.of_longer hstray'
      | lexical | nesting => cases hfault
  | nesting hitems _ hpanel hopen hearlier =>
      cases h' with
      | nesting hitems' _ hpanel' hopen' hearlier' =>
          obtain rfl | ⟨l, more, hitem, rfl⟩ | ⟨l, more, hitem, rfl⟩ :=
            compare_splits hitems hitems'
          · rfl
          · cases hitem
            exact absurd hopen (Nat.ne_of_lt (hearlier' _ _ _ rfl hpanel))
          · cases hitem
            exact absurd hopen' (Nat.ne_of_lt (hearlier _ _ _ rfl hpanel'))
      | lexical | mismatch => cases hfault

theorem CutOff.before_last {limit : Nat} {lx : Lexemes}
    {after : List (Except LexicalError Lexeme)} {e : LexicalError} (made : List Lexeme) (l : Lexeme)
    (h : lx.items = .error e :: after) :
    CutOff limit ((Lexemes.cons l lx).prepend made).items (.lexical e) made.length := by
  have hitems : ((Lexemes.cons l lx).prepend made).items =
      (made ++ [l]).map .ok ++ .error e :: after := by
    rw [Lexemes.items_prepend, Lexemes.items, h, List.map_append, List.append_assoc]
    rfl
  have hcut : CutOff limit ((Lexemes.cons l lx).prepend made).items (.lexical e)
      ((made ++ [l]).length - 1) := .lexical hitems
  rwa [List.length_append, List.length_singleton, Nat.add_sub_cancel] at hcut

namespace Grammar.Walk

variable {limit depth final : Nat} {place last : Place} {ts us : List Token} {es : List Event}

theorem split (h : Walk limit place depth (ts ++ us) es last final) :
    ∃ fs gs next deeper, es = fs ++ gs ∧ Walk limit place depth ts fs next deeper ∧
      Walk limit next deeper us gs last final := by
  induction ts generalizing place depth es with
  | nil => exact ⟨[], es, place, depth, rfl, .stay, h⟩
  | cons token ts ih =>
      cases h with
      | onward hstep hrest =>
          obtain ⟨fs, gs, next, deeper, rfl, hfront, hback⟩ := ih hrest
          exact ⟨_, gs, next, deeper, (List.append_assoc ..).symm, .onward hstep hfront, hback⟩

-- No walk opens one panel too many.
theorem openPanels_lt (h : Walk limit .window 0 (ts ++ .keyword .panel :: us) es place depth) :
    openPanels (ts.map Token.kind) < limit := by
  obtain ⟨fs, gs, next, deeper, -, hfront, hback⟩ := h.split
  cases hback with
  | onward hstep _ =>
      have hpanel : Kind.keyword .panel ∈ next.expected := by
        by_contra hstray
        cases (hstep 0).symm.trans ((Place.step_eq_refused_iff _ _ _ _ _).mpr hstray)
      obtain ⟨first, rfl⟩ := Place.eq_widgets_of_panel_mem hpanel
      rw [hfront.openPanels_eq]
      by_contra hover
      -- beyond the limit a step depends on the line
      have hdeep := Place.step_panel_of_le (Nat.le_of_not_lt hover) first
      cases (hdeep 0).symm.trans ((hstep 0).trans ((hstep 1).symm.trans (hdeep 1)))

-- What takes effect if reading goes on with one more lexeme and then stops.
theorem events_reading {ls : List Lexeme} {rest : Lexemes}
    (h : Walk limit place depth (ls.map Lexeme.token) es last final)
    (hrest : ∀ waiting, (rest.reading limit last final waiting).events = waiting.toList) :
    ((rest.prepend ls).reading limit place depth none).events = es := by
  obtain ⟨done, kept, hdone, hreading⟩ := h.reading rfl none
  rw [(hreading rest).2, hrest, hdone]
  rfl

end Grammar.Walk

-- The lexemes whose calls have been made when the text turns out to be faulty.
structure Made (limit : Nat) (lx : Lexemes) (fault : Fault) (made : List Lexeme) : Prop where
  begins : lx.BeginsWith made
  walk : ∃ place depth, Walk limit .window 0 (made.map Lexeme.token)
    (lx.reading limit .window 0 none).events place depth
  cutOff : CutOff limit lx.items fault made.length

namespace Made

variable {limit depth : Nat} {place : Place} {before : List Lexeme} {lexeme : Lexeme}
  {events : List Event} {rest : Lexemes} {after : List (Except LexicalError Lexeme)}

-- The last lexeme before one that cannot be read triggers nothing.
theorem unlexable {e : LexicalError}
    (h : Walk limit .window 0 (before.map Lexeme.token) events place depth) :
    ∃ made, Made limit ((Lexemes.stopped e).prepend before) (.lexical e) made := by
  obtain rfl | ⟨made, l, rfl⟩ := before.eq_nil_or_concat
  · have hcut : CutOff limit [.error e] (.lexical e) (([] : List Lexeme).length - 1) :=
      .lexical rfl
    exact ⟨[], ⟨_, rfl⟩, ⟨.window, 0, .stay⟩, hcut⟩
  · rw [List.concat_eq_append] at h ⊢
    rw [List.map_append] at h
    obtain ⟨fs, gs, next, deeper, -, hmade, hlast⟩ := h.split
    cases hlast with
    | onward hstep _ =>
        have hevents := hmade.events_reading fun waiting => by
          rw [Lexemes.reading_cons waiting (.stopped e) (hstep l.position.line),
            Reading.events_after]
          exact List.append_nil _
        rw [Lexemes.prepend_append_singleton]
        exact ⟨made, ⟨_, rfl⟩, ⟨next, deeper, hevents.symm ▸ hmade⟩, .before_last made l rfl⟩

theorem stray (h : Walk limit .window 0 (before.map Lexeme.token) events place depth)
    (hitems : rest.items = .ok lexeme :: after) (hkind : lexeme.kind ∉ place.expected) :
    Made limit (rest.prepend before)
      (.mismatch ⟨lexeme.position, place.expected, lexeme.kind⟩) before := by
  have hevents := h.events_reading fun waiting => by
    rw [Lexemes.reading_stray h.expected_ne_nil hitems hkind waiting, Reading.events_after]
    exact List.append_nil _
  have hstray : ¬ Viable ((before ++ [lexeme]).map Lexeme.kind) := by
    rwa [viable_append_iff h]
  have hsplit : (rest.prepend before).items = before.map .ok ++ .ok lexeme :: after := by
    rw [Lexemes.items_prepend, hitems]
  exact ⟨⟨_, rfl⟩, ⟨place, depth, hevents.symm ▸ h⟩,
    .mismatch place.expected hsplit (viable_of_walk h) hstray⟩

theorem overdeep {first : Bool} {next : Except LexicalError Lexeme}
    (h : Walk limit .window 0 (before.map Lexeme.token) events (.widgets first) depth)
    (hpanel : lexeme.token = .keyword .panel) (hover : limit ≤ depth)
    (hitems : rest.items = next :: after) :
    Made limit ((Lexemes.cons lexeme rest).prepend before)
      (Lexemes.overdeepFault limit lexeme next) before := by
  have hevents := h.events_reading fun waiting =>
    (Lexemes.reading_overdeep hpanel hover hitems waiting).2
  refine ⟨⟨_, rfl⟩, ⟨.widgets first, depth, hevents.symm ▸ h⟩, ?_⟩
  cases next with
  | error e => exact .before_last before lexeme hitems
  | ok next =>
      obtain ⟨hviable, hopen⟩ := overdeep_of_walk h hpanel hover
      refine .nesting (Lexemes.items_prepend ..) hviable hpanel hopen ?_
      rintro front panel more rfl hearlier
      rw [List.map_append, List.map_cons, hearlier] at h
      rw [map_kind_eq]
      exact h.openPanels_lt

end Made

theorem exists_made {limit : Nat} {source : String} {fault : Fault}
    (h : (Reading.ofText limit source).result = .error fault) :
    ∃ made, Made limit (Lexemes.ofText source) fault made := by
  obtain ⟨before, rest, events, place, depth, kept, hsource, hwalk, hstand, hresult⟩ :=
    (Lexemes.ofText source).exists_standstill limit
  rw [Reading.ofText, hresult] at h
  rw [hsource]
  cases hstand with
  | unlexable e =>
      cases h
      exact Made.unlexable hwalk
  | stray hitems hkind =>
      rw [Lexemes.reading_stray hwalk.expected_ne_nil hitems hkind kept] at h
      cases h
      exact ⟨before, .stray hwalk hitems hkind⟩
  | @overdeep _ _ _ rest hpanel hover =>
      obtain ⟨next, after, hitems⟩ := rest.items_eq_cons
      have hmade := Made.overdeep hwalk hpanel hover hitems
      rw [(Lexemes.reading_overdeep hpanel hover hitems kept).1] at h
      rw [Except.error.inj h] at hmade
      exact ⟨before, hmade⟩
  | finished hperiod =>
      rw [Lexemes.reading_finished hperiod] at h
      cases h

mutual

-- No widget shows a window.
theorem Widget.showWindow_notMem_calls (window home : ContainerId) (made begun : Nat) :
    (widget : Widget) → Call.showWindow window ∉ widget.calls home made begun
  | .button _ | .label _ | .textField _ => by simp [calls]
  | .panel layout children => by
      have hchildren := Widget.showWindow_notMem_callsAll window ⟨made⟩ (made + 1) begun children
      simp [calls, hchildren]
  | .radioGroup labels => by simp [calls]

theorem Widget.showWindow_notMem_callsAll (window home : ContainerId) (made begun : Nat) :
    (widgets : List Widget) → Call.showWindow window ∉ callsAll home made begun widgets
  | [] => List.not_mem_nil
  | widget :: rest => by
      rw [callsAll, List.mem_append, not_or]
      exact ⟨Widget.showWindow_notMem_calls _ _ _ _ widget,
        Widget.showWindow_notMem_callsAll _ _ _ _ rest⟩

end

theorem Window.exists_calls (w : Window) (made begun : Nat) :
    ∃ calls, w.calls made begun = calls ++ [.showWindow ⟨made⟩] ∧
      ∀ window, Call.showWindow window ∉ calls := by
  refine ⟨_, rfl, fun window => ?_⟩
  simp [Widget.showWindow_notMem_callsAll]

-- The calls that have been made when a fault is found are those of the lexemes before it, in any
-- document that begins with these. There is such a document, and it makes more calls, for the
-- window is not shown yet.
theorem calls_before_fault {limit : Nat} {source : String} {fault : Fault}
    (h : (recorded limit source).result = .error fault) :
    ∃ made : List Lexeme, (Lexemes.ofText source).BeginsWith made ∧
      (∀ j, CutOff limit (Lexemes.ofText source).items fault j ↔ j = made.length) ∧
      (∀ d : Document, made.map Lexeme.token <+: d.tokens →
        (recorded limit source).state.calls.toList =
          (d.script.take made.length).filterMap Prod.snd) ∧
      (∀ window, Call.showWindow window ∉ (recorded limit source).state.calls.toList) ∧
      ∃ (source' : String) (d : Document) (more : List Call),
        (recorded limit source').result = .ok () ∧ (Lexemes.ofText source').BeginsWith made ∧
        made.map Lexeme.token <+: d.tokens ∧ more ≠ [] ∧
        (recorded limit source').state.calls.toList = d.script.filterMap Prod.snd ∧
        d.script.filterMap Prod.snd = (recorded limit source).state.calls.toList ++ more := by
  rw [recorded, result_parse] at h
  obtain ⟨made, ⟨left, hsource⟩, ⟨place, depth, hwalk⟩, hcut⟩ := exists_made h
  have hevents : (recorded limit source).state =
      (Scene.performAll Recording.renderer (.start .empty)
        ((Lexemes.ofText source).reading limit .window 0 none).events).value.state := by
    rw [recorded, value_parse_streaming, state_parseStreaming, Reading.ofText]
  have hscript (d : Document) (hbegin : made.map Lexeme.token <+: d.tokens) :=
    hwalk.exists_script hbegin
  rw [← hevents] at hscript
  obtain ⟨source', d, more, ⟨left', hsource'⟩, htokens, hdepth⟩ := exists_completion hsource hwalk
  have hbegin : made.map Lexeme.token <+: d.tokens := by
    rw [htokens, List.map_append]
    exact List.prefix_append _ _
  obtain ⟨done, rest, hsplit, -, hcalls⟩ := hscript d hbegin
  have hall : d.script.filterMap Prod.snd =
      done.filterMap Prod.snd ++ rest.filterMap Prod.snd ++ [.showWindow ⟨0⟩] := by
    rw [hsplit, List.filterMap_append, List.filterMap_append]
    rfl
  refine ⟨made, ⟨left, hsource⟩, fun j => ⟨fun hj => hj.unique hcut, fun hj => hj ▸ hcut⟩, ?_, ?_,
    source', d, rest.filterMap Prod.snd ++ [.showWindow ⟨0⟩], ?_, ?_, hbegin, by simp, ?_, ?_⟩
  · intro d hbegin
    obtain ⟨done, rest, hsplit, hdone, hcalls⟩ := hscript d hbegin
    have hlength : made.length = done.length := by
      rw [← List.length_map Lexeme.token, ← hdone, List.length_map]
    rw [hcalls, hsplit, hlength, List.append_assoc, List.take_left]
  · obtain ⟨before, hbefore, hnone⟩ := d.window.exists_calls 0 0
    rw [← d.filterMap_script, hall] at hbefore
    intro window hmem
    rw [hcalls] at hmem
    apply hnone window
    rw [← List.append_cancel_right hbefore]
    exact List.mem_append_left _ hmem
  · rw [recorded, result_parse]
    exact (Reading.result_ofText_eq_ok_iff limit source').mpr
      ⟨made ++ more, ⟨left', hsource'⟩, Document.derivable htokens hdepth⟩
  · exact ⟨left'.prepend more, by rw [hsource', Lexemes.prepend, List.foldr_append]; rfl⟩
  · rw [d.filterMap_script]
    exact calls_recorded (Reading.events_ofText ⟨left', hsource'⟩ htokens hdepth)
  · rw [hall, hcalls, List.append_assoc]

def unreadStatement : String := "window \"W\" (1, 2) layout flow: button \"A\"; ?"

-- The button is complete, but what follows it cannot be read.
theorem calls_before_unread :
    (recorded 64 unreadStatement).result = .error (.lexical ⟨.unexpectedChar '?', ⟨1, 44⟩⟩) ∧
    (recorded 64 unreadStatement).state.calls.toList =
      [.createWindow ⟨0⟩ "W" 1 2, .setLayout ⟨0⟩ .flow] ∧
    ∃ made : List Lexeme, (Lexemes.ofText unreadStatement).BeginsWith made ∧
      (∀ j, CutOff 64 (Lexemes.ofText unreadStatement).items
        (.lexical ⟨.unexpectedChar '?', ⟨1, 44⟩⟩) j ↔ j = made.length) ∧
      (∀ d : Document, made.map Lexeme.token <+: d.tokens →
        (recorded 64 unreadStatement).state.calls.toList =
          (d.script.take made.length).filterMap Prod.snd) ∧
      (∀ window, Call.showWindow window ∉ (recorded 64 unreadStatement).state.calls.toList) ∧
      ∃ (source' : String) (d : Document) (more : List Call),
        (recorded 64 source').result = .ok () ∧ (Lexemes.ofText source').BeginsWith made ∧
        made.map Lexeme.token <+: d.tokens ∧ more ≠ [] ∧
        (recorded 64 source').state.calls.toList = d.script.filterMap Prod.snd ∧
        d.script.filterMap Prod.snd =
          (recorded 64 unreadStatement).state.calls.toList ++ more := by
  have hresult : (recorded 64 unreadStatement).result =
      .error (.lexical ⟨.unexpectedChar '?', ⟨1, 44⟩⟩) := by
    decide +kernel
  have hcalls : (recorded 64 unreadStatement).state.calls.toList =
      [.createWindow ⟨0⟩ "W" 1 2, .setLayout ⟨0⟩ .flow] := by
    decide +kernel
  exact ⟨hresult, hcalls, calls_before_fault hresult⟩

end WindowDoc
