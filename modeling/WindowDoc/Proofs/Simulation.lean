import Mathlib.Data.List.Forall2
import WindowDoc.Parse

namespace WindowDoc

variable {σ κ γ : Type}

namespace Scene

-- Taking up a lexeme is noted in the log and leaves the scene as it is.
theorem value_actAll (r : Renderer σ κ γ) (scene : Scene σ κ γ) (reading : Reading) :
    (scene.actAll r reading.acts).value = (scene.performAll r reading.events).value := by
  obtain ⟨acts, result⟩ := reading
  induction acts generalizing scene with
  | nil => rfl
  | cons act acts ih =>
      cases act with
      | take lexeme => exact ih scene
      | perform event => exact ih (scene.perform r event).value

theorem performAll_append (r : Renderer σ κ γ) (scene : Scene σ κ γ) (events more : List Event) :
    (scene.performAll r (events ++ more)).value =
      ((scene.performAll r events).value.performAll r more).value := by
  induction events generalizing scene with
  | nil => rfl
  | cons event events ih => exact ih (scene.perform r event).value

theorem quiet_performAll_append_iff (r : Renderer σ κ γ) (scene : Scene σ κ γ)
    (events more : List Event) :
    (scene.performAll r (events ++ more)).Quiet ↔
      (scene.performAll r events).Quiet ∧
        ((scene.performAll r events).value.performAll r more).Quiet := by
  induction events generalizing scene with
  | nil => simp [performAll]
  | cons event events ih => simp [performAll, ih, and_assoc]

end Scene

namespace Replay

theorem issueAll_append (r : Renderer σ κ γ) (calls more : List Call) (replay : Replay σ κ γ) :
    (issueAll r (calls ++ more) replay).value =
      (issueAll r more (issueAll r calls replay).value).value := by
  induction calls generalizing replay with
  | nil => rfl
  | cons call calls ih => exact ih (issue r call replay).value

theorem quiet_issueAll_append_iff (r : Renderer σ κ γ) (calls more : List Call)
    (replay : Replay σ κ γ) :
    (issueAll r (calls ++ more) replay).Quiet ↔
      (issueAll r calls replay).Quiet ∧ (issueAll r more (issueAll r calls replay).value).Quiet := by
  induction calls generalizing replay with
  | nil => simp [issueAll]
  | cons call calls ih => simp [issueAll, ih, and_assoc]

-- The handle that a replay has for a recorded container, one of the first `count`.
def KnowsContainer (replay : Replay σ κ γ) (count : Nat) (id : ContainerId) (handle : κ) : Prop :=
  id.index < count ∧ replay.containers.lookup id = some handle

def KnowsGroup (replay : Replay σ κ γ) (count : Nat) (id : GroupId) (handle : γ) : Prop :=
  id.index < count ∧ replay.groups.lookup id = some handle

-- A document being recorded and the same document being drawn, with a replay that has come as
-- far as the recording. The replay knows the handle behind every number that is in use, and
-- numbers given out later are larger, so that none of these handles is lost.
structure Follows (replay : Replay σ κ γ) (recorded : Scene Recording ContainerId GroupId)
    (drawn : Scene σ κ γ) : Prop where
  state : replay.state = drawn.state
  containers :
    List.Forall₂ (replay.KnowsContainer recorded.state.containers) recorded.containers drawn.containers
  group : Option.Rel (replay.KnowsGroup recorded.state.groups) recorded.group drawn.group

theorem Follows.start (state : σ) :
    Follows (⟨state, [], []⟩ : Replay σ κ γ) (.start .empty) (.start state) :=
  ⟨rfl, .nil, .none⟩

theorem KnowsContainer.cons {replay : Replay σ κ γ} {count : Nat} {id : ContainerId}
    {handle : κ} (h : replay.KnowsContainer count id handle) (state : σ) (made : κ) :
    KnowsContainer { replay with state, containers := (⟨count⟩, made) :: replay.containers }
      (count + 1) id handle := by
  have hne : (id == ⟨count⟩) = false := by
    rw [beq_eq_false_iff_ne]
    rintro rfl
    exact Nat.lt_irrefl count h.1
  refine ⟨Nat.lt_succ_of_lt h.1, ?_⟩
  simp only [List.lookup_cons, hne]
  exact h.2

section Perform

variable {replay : Replay σ κ γ} {recorded : Scene Recording ContainerId GroupId}
  {drawn : Scene σ κ γ}

-- A call that makes nothing changes the state alone.
theorem Follows.withState (h : Follows replay recorded drawn) (state : σ) (calls : Array Call) :
    Follows { replay with state } { recorded with state := { recorded.state with calls } }
      { drawn with state } :=
  ⟨rfl, h.containers, h.group⟩

theorem Follows.cons (h : Follows replay recorded drawn) (state : σ) (made : κ)
    (calls : Array Call) :
    Follows
      { replay with
        state, containers := (⟨recorded.state.containers⟩, made) :: replay.containers }
      { recorded with
        state := ⟨calls, recorded.state.containers + 1, recorded.state.groups⟩
        containers := ⟨recorded.state.containers⟩ :: recorded.containers }
      { drawn with state, containers := made :: drawn.containers } := by
  refine ⟨rfl, .cons ⟨Nat.lt_succ_self _, List.lookup_cons_self⟩ ?_, h.group⟩
  exact h.containers.imp fun _ _ hid => hid.cons state made

-- Outside of all containers nothing happens on either side. Inside of some, both sides act on
-- the innermost one, and the replay knows the handle of that, so that it warns of nothing.
theorem Follows.within (r : Renderer σ κ γ) (h : Follows replay recorded drawn)
    {record : ContainerId → Logged (Scene Recording ContainerId GroupId)}
    {draw : κ → Logged (Scene σ κ γ)} (call : ContainerId → Call)
    (hrecord : ∀ id, (record id).value.state.calls = recorded.state.calls.push (call id))
    (hdraw : ∀ id handle, replay.KnowsContainer recorded.state.containers id handle →
      Follows (issue r (call id) replay).value (record id).value (draw handle).value ∧
        ((draw handle).Quiet → (issue r (call id) replay).Quiet)) :
    ∃ calls, (recorded.within record).value.state.calls.toList =
        recorded.state.calls.toList ++ calls ∧
      Follows (issueAll r calls replay).value (recorded.within record).value
        (drawn.within draw).value ∧
      ((drawn.within draw).Quiet → (issueAll r calls replay).Quiet) := by
  obtain ⟨recording, ids, mark⟩ := recorded
  obtain ⟨state, handles, members⟩ := drawn
  have hstack : List.Forall₂ (replay.KnowsContainer recording.containers) ids handles :=
    h.containers
  cases hstack with
  | nil => exact ⟨[], (List.append_nil _).symm, h, id⟩
  | @cons id handle ids handles hid _ =>
      obtain ⟨hfollows, hquiet⟩ := hdraw id handle hid
      refine ⟨[call id], ?_, hfollows, fun hdrawn => ?_⟩
      · exact (congrArg Array.toList (hrecord id)).trans Array.toList_push
      · simpa [issueAll] using hquiet hdrawn

-- One statement adds at most one call to the recording, and issuing that call does to the
-- renderer what the statement does to it, with no more warnings.
theorem Follows.perform (r : Renderer σ κ γ) (event : Event) (h : Follows replay recorded drawn) :
    ∃ calls, (recorded.perform Recording.renderer event).value.state.calls.toList =
        recorded.state.calls.toList ++ calls ∧
      Follows (issueAll r calls replay).value (recorded.perform Recording.renderer event).value
        (drawn.perform r event).value ∧
      ((drawn.perform r event).Quiet → (issueAll r calls replay).Quiet) := by
  have hstate := h.state
  cases event with
  | openWindow title width height =>
      refine ⟨[.createWindow ⟨recorded.state.containers⟩ title width height],
        Array.toList_push, ?_⟩
      simp only [issueAll, issue, hstate]
      exact ⟨h.cons _ _ _, fun hquiet => by simpa using (Logged.quiet_bind_iff.mp hquiet).2⟩
  | layout layout =>
      apply h.within r (.setLayout · layout) fun _ => rfl
      intro id handle hid
      simp only [issue, onContainer, hid.2, hstate]
      exact ⟨h.withState _ _, fun hquiet => by simpa using (Logged.quiet_bind_iff.mp hquiet).2⟩
  | button label =>
      apply h.within r (.addButton · label) fun _ => rfl
      intro id handle hid
      simp only [issue, onContainer, hid.2, hstate]
      exact ⟨h.withState _ _, fun hquiet => by simpa using hquiet⟩
  | label text =>
      apply h.within r (.addLabel · text) fun _ => rfl
      intro id handle hid
      simp only [issue, onContainer, hid.2, hstate]
      exact ⟨h.withState _ _, fun hquiet => by simpa using hquiet⟩
  | textField columns =>
      apply h.within r (.addTextField · columns) fun _ => rfl
      intro id handle hid
      simp only [issue, onContainer, hid.2, hstate]
      exact ⟨h.withState _ _, fun hquiet => by simpa using hquiet⟩
  | openPanel =>
      apply h.within r (.beginPanel · ⟨recorded.state.containers⟩) fun _ => rfl
      intro id handle hid
      simp only [issue, onContainer, hid.2, hstate]
      exact ⟨h.cons _ _ _, fun hquiet => by simpa using hquiet⟩
  | closePanel =>
      have htail := List.forall₂_drop 1 h.containers
      rw [List.drop_one, List.drop_one] at htail
      exact ⟨[], (List.append_nil _).symm, ⟨hstate, htail, h.group⟩, id⟩
  | openGroup =>
      refine ⟨[.beginRadioGroup ⟨recorded.state.groups⟩], Array.toList_push, ?_⟩
      simp only [issueAll, issue, hstate]
      refine ⟨⟨rfl, h.containers, .some ⟨Nat.lt_succ_self _, List.lookup_cons_self⟩⟩, ?_⟩
      exact fun hquiet => by simpa [Scene.perform] using hquiet
  | radio label =>
      obtain ⟨recording, ids, mark⟩ := recorded
      obtain ⟨state, handles, members⟩ := drawn
      have hmark : Option.Rel (replay.KnowsGroup recording.groups) mark members := h.group
      cases hmark with
      | none =>
          refine ⟨[], ?_, ?_, fun _ => rfl⟩
          · cases ids <;> exact (List.append_nil _).symm
          · have hstack : List.Forall₂ (replay.KnowsContainer recording.containers) ids handles :=
              h.containers
            cases hstack <;> exact h
      | @some mark members hgroup =>
          apply h.within r (.addRadioButton mark · label) fun _ => rfl
          intro id handle hid
          simp only [issue, onContainer, onGroup, hid.2, hgroup.2, hstate]
          exact ⟨h.withState _ _, fun hquiet => by simpa using hquiet⟩
  | closeGroup => exact ⟨[], (List.append_nil _).symm, ⟨hstate, h.containers, .none⟩, id⟩
  | showWindow =>
      apply h.within r .showWindow fun _ => rfl
      intro id handle hid
      simp only [issue, onContainer, hid.2, hstate]
      exact ⟨h.withState _ _, fun hquiet => by simpa using hquiet⟩

theorem Follows.performAll (r : Renderer σ κ γ) (events : List Event)
    (h : Follows replay recorded drawn) :
    ∃ calls, (recorded.performAll Recording.renderer events).value.state.calls.toList =
        recorded.state.calls.toList ++ calls ∧
      Follows (issueAll r calls replay).value (recorded.performAll Recording.renderer events).value
        (drawn.performAll r events).value ∧
      ((drawn.performAll r events).Quiet → (issueAll r calls replay).Quiet) := by
  induction events generalizing replay recorded drawn with
  | nil => exact ⟨[], (List.append_nil _).symm, h, id⟩
  | cons event events ih =>
      obtain ⟨calls, hcalls, hnext, hquiet⟩ := h.perform r event
      obtain ⟨more, hmore, hlast, hquiets⟩ := ih hnext
      refine ⟨calls ++ more, ?_, ?_, fun hdrawn => ?_⟩
      · rw [← List.append_assoc, ← hcalls]
        exact hmore
      · rw [issueAll_append]
        exact hlast
      · rw [Scene.performAll, Logged.quiet_bind_iff] at hdrawn
        rw [quiet_issueAll_append_iff]
        exact ⟨hquiet hdrawn.1, hquiets hdrawn.2⟩

end Perform

end Replay

theorem state_parseStreaming (r : Renderer σ κ γ) (limit : Nat) (source : String) (state : σ) :
    (parseStreaming r limit source state).value.state =
      (Scene.performAll r (.start state) (Reading.ofText limit source).events).value.state := by
  rw [← Scene.value_actAll]
  rfl

-- Replaying what a document leaves in an empty recording is drawing the document.
theorem replay_parseStreaming (r : Renderer σ κ γ) (limit : Nat) (source : String) (state : σ) :
    ((parseStreaming Recording.renderer limit source .empty).value.state.replay r state).value =
      (parseStreaming r limit source state).value.state := by
  obtain ⟨calls, hcalls, hlast, -⟩ :=
    (Replay.Follows.start state).performAll r (Reading.ofText limit source).events
  rw [state_parseStreaming, state_parseStreaming, ← hlast.state]
  simp only [Recording.replay, Logged.value_bind, Logged.value_pure]
  rw [hcalls]
  rfl

-- The failure that is noted at the end changes neither the result nor the state.
theorem value_parse_streaming (r : Renderer σ κ γ) (limit : Nat) (source : String) (state : σ) :
    (parse r ⟨.streaming, limit⟩ source state).value =
      (parseStreaming r limit source state).value := by
  simp only [parse, Logged.value_bind]
  split <;> rfl

theorem value_parse_atomic (r : Renderer σ κ γ) (limit : Nat) (source : String) (state : σ) :
    (parse r ⟨.atomic, limit⟩ source state).value =
      match (Reading.ofText limit source).result with
      | .error fault => ⟨.error fault, state⟩
      | .ok () => ⟨.ok (), (parseStreaming r limit source state).value.state⟩ := by
  have hatomic : (parse r ⟨.atomic, limit⟩ source state).value =
      (parseAtomic r limit source state).value := by
    simp only [parse, Logged.value_bind]
    split <;> rfl
  have hresult : (parseStreaming Recording.renderer limit source .empty).value.result =
      (Reading.ofText limit source).result := rfl
  rw [hatomic, parseAtomic, Logged.value_bind, hresult]
  cases (Reading.ofText limit source).result with
  | error fault => rfl
  | ok _ => simp only [Logged.value_bind, Logged.value_pure, replay_parseStreaming]

-- Whether a document is accepted depends on its text and the limit alone.
theorem result_parse (r : Renderer σ κ γ) (options : Options) (source : String) (state : σ) :
    (parse r options source state).value.result =
      (Reading.ofText options.maxNesting source).result := by
  obtain ⟨commit, limit⟩ := options
  cases commit with
  | streaming =>
      rw [value_parse_streaming]
      rfl
  | atomic =>
      rw [value_parse_atomic]
      cases (Reading.ofText limit source).result <;> rfl

theorem value_parse (r : Renderer σ κ γ) (options : Options) (source : String) (state : σ) :
    (parse r options source state).value =
      ⟨(Reading.ofText options.maxNesting source).result,
        (parse r options source state).value.state⟩ := by
  rw [← result_parse r options source state]

-- A document that is accepted draws the same whichever way its calls are committed.
theorem state_parse_of_ok (r : Renderer σ κ γ) {options : Options} {source : String} (state : σ)
    (h : (Reading.ofText options.maxNesting source).result = .ok ()) :
    (parse r options source state).value.state =
      (Scene.performAll r (.start state)
        (Reading.ofText options.maxNesting source).events).value.state := by
  obtain ⟨commit, limit⟩ := options
  rw [← state_parseStreaming]
  cases commit with
  | streaming => rw [value_parse_streaming]
  | atomic => rw [value_parse_atomic, h]

-- One that is not leaves nothing behind, or what was drawn before the fault.
theorem state_parse_of_error (r : Renderer σ κ γ) {options : Options} {source : String} (state : σ)
    {fault : Fault} (h : (Reading.ofText options.maxNesting source).result = .error fault) :
    options.commit = .atomic ∧ (parse r options source state).value.state = state ∨
      options.commit = .streaming ∧ (parse r options source state).value.state =
        (Scene.performAll r (.start state)
          (Reading.ofText options.maxNesting source).events).value.state := by
  obtain ⟨commit, limit⟩ := options
  rw [← state_parseStreaming]
  cases commit with
  | streaming => exact .inr ⟨rfl, by rw [value_parse_streaming]⟩
  | atomic => exact .inl ⟨rfl, by rw [value_parse_atomic, h]⟩

-- Taking up a lexeme is no reason to warn, and neither is recording.

theorem Scene.quiet_actAll_iff (r : Renderer σ κ γ) (scene : Scene σ κ γ) (reading : Reading) :
    (scene.actAll r reading.acts).Quiet ↔ (scene.performAll r reading.events).Quiet := by
  obtain ⟨acts, result⟩ := reading
  induction acts generalizing scene with
  | nil => exact Iff.rfl
  | cons act acts ih =>
      cases act with
      | take lexeme =>
          have hnote : (scene.act r (.take lexeme)).Quiet := by
            simp [Scene.act, Entry.level]
          rw [Scene.actAll, Logged.quiet_bind_iff, and_iff_right hnote]
          exact ih scene
      | perform event =>
          have hevents : (⟨.perform event :: acts, result⟩ : Reading).events =
              event :: (⟨acts, result⟩ : Reading).events := rfl
          rw [hevents, Scene.actAll, Scene.performAll, Logged.quiet_bind_iff, Logged.quiet_bind_iff,
            ih]
          rfl

theorem Scene.quiet_perform_recording (scene : Scene Recording ContainerId GroupId)
    (event : Event) : (scene.perform Recording.renderer event).Quiet := by
  obtain ⟨recording, containers, group⟩ := scene
  cases event <;> cases containers <;> cases group <;> rfl

theorem Scene.quiet_performAll_recording (scene : Scene Recording ContainerId GroupId)
    (events : List Event) : (scene.performAll Recording.renderer events).Quiet := by
  induction events generalizing scene with
  | nil => rfl
  | cons event events ih =>
      exact Logged.quiet_bind_iff.mpr ⟨scene.quiet_perform_recording event, ih _⟩

theorem quiet_parseStreaming_iff (r : Renderer σ κ γ) (limit : Nat) (source : String) (state : σ) :
    (parseStreaming r limit source state).Quiet ↔
      (Scene.performAll r (.start state) (Reading.ofText limit source).events).Quiet := by
  rw [← Scene.quiet_actAll_iff]
  simp [parseStreaming, Reading.render]

theorem quiet_parseAtomic (r : Renderer σ κ γ) {limit : Nat} {source : String} {state : σ}
    (h : (Scene.performAll r (.start state) (Reading.ofText limit source).events).Quiet) :
    (parseAtomic r limit source state).Quiet := by
  obtain ⟨calls, hcalls, -, hquiet⟩ :=
    (Replay.Follows.start state).performAll r (Reading.ofText limit source).events
  have hrecorded :
      (parseStreaming Recording.renderer limit source .empty).value.state.calls.toList = calls := by
    rw [state_parseStreaming, hcalls]
    rfl
  rw [parseAtomic, Logged.quiet_bind_iff, quiet_parseStreaming_iff]
  refine ⟨Scene.quiet_performAll_recording _ _, ?_⟩
  split
  · exact Logged.quiet_pure _
  · simp [Recording.replay, hrecorded, hquiet h, Entry.level]

-- Nothing but the renderer warns, whichever way the calls are committed.
theorem quiet_parse (r : Renderer σ κ γ) {options : Options} {source : String} {state : σ}
    (h : (Scene.performAll r (.start state)
      (Reading.ofText options.maxNesting source).events).Quiet) :
    (parse r options source state).Quiet := by
  obtain ⟨commit, limit⟩ := options
  have hstreaming := (quiet_parseStreaming_iff r limit source state).mpr h
  have hatomic := quiet_parseAtomic r h
  cases commit <;> simp only [parse, Logged.quiet_bind_iff] <;> refine ⟨by assumption, ?_⟩ <;>
    split <;> simp [Entry.level]

theorem parse_replay_agreement (r : Renderer σ κ γ) (source : String) (limit : Nat) (state : σ) :
    (parse r ⟨.streaming, limit⟩ source state).value.state =
        ((parse Recording.renderer ⟨.streaming, limit⟩ source .empty).value.state.replay r
          state).value ∧
      (∀ {σ' κ' γ' : Type} (r' : Renderer σ' κ' γ') (state' : σ') (commit commit' : Commit),
        (parse r ⟨commit, limit⟩ source state).value.result =
          (parse r' ⟨commit', limit⟩ source state').value.result) ∧
      (parse r ⟨.atomic, limit⟩ source state).value.state =
        match (parse r ⟨.atomic, limit⟩ source state).value.result with
        | .ok () => (parse r ⟨.streaming, limit⟩ source state).value.state
        | .error _ => state := by
  refine ⟨?_, ?_, ?_⟩
  · rw [value_parse_streaming, value_parse_streaming, replay_parseStreaming]
  · intro σ' κ' γ' r' state' commit commit'
    rw [result_parse, result_parse]
  · rw [result_parse, value_parse_atomic, value_parse_streaming]
    cases (Reading.ofText limit source).result <;> rfl

end WindowDoc
