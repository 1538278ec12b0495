import WindowDoc.Proofs.Replay.Basic

namespace WindowDoc

variable {σ κ γ : Type}

namespace Replay

-- What becomes of a recorded call: the renderer is asked for something and answers, or the call
-- is skipped with a warning.
inductive Fate (κ γ : Type) where
  | issued (request : Request κ γ) (reply : Reply κ γ) (log : List Entry)
  | skipped (warning : Entry)

namespace Fate

def request? : Fate κ γ → Option (Request κ γ)
  | issued request _ _ => some request
  | skipped _ => none

def warning? : Fate κ γ → Option Entry
  | issued .. => none
  | skipped warning => some warning

end Fate

-- The handle that the renderer answered with when a recorded container was made.
def Given (past : List (Call × Fate κ γ)) (id : ContainerId) (handle : κ) : Prop :=
  ∃ call request log, (call, Fate.issued request (.container handle) log) ∈ past ∧
    call.container? = some id

def GivenGroup (past : List (Call × Fate κ γ)) (id : GroupId) (handle : γ) : Prop :=
  ∃ call request log, (call, Fate.issued request (.group handle) log) ∈ past ∧
    call.group? = some id

-- A recorded call and the request for the same thing with the renderer's own handles.
inductive Asks (past : List (Call × Fate κ γ)) : Call → Request κ γ → Prop where
  | createWindow {id title width height} :
      Asks past (.createWindow id title width height) (.createWindow title width height)
  | setLayout {id handle layout} : Given past id handle →
      Asks past (.setLayout id layout) (.setLayout handle layout)
  | addButton {id handle label} : Given past id handle →
      Asks past (.addButton id label) (.addButton handle label)
  | addLabel {id handle text} : Given past id handle →
      Asks past (.addLabel id text) (.addLabel handle text)
  | addTextField {id handle columns} : Given past id handle →
      Asks past (.addTextField id columns) (.addTextField handle columns)
  | beginPanel {parent id handle} : Given past parent handle →
      Asks past (.beginPanel parent id) (.beginPanel handle)
  | beginRadioGroup {group} : Asks past (.beginRadioGroup group) .beginRadioGroup
  | addRadioButton {group id members handle label} : GivenGroup past group members →
      Given past id handle →
      Asks past (.addRadioButton group id label) (.addRadioButton members handle label)
  | showWindow {id handle} : Given past id handle →
      Asks past (.showWindow id) (.showWindow handle)

-- A warning that names something which a call speaks of and which was never made.
def Lacks (front : List Call) (call : Call) : Entry → Prop
  | .replaySkippedContainer id => id ∈ call.home? ∧ ¬ Live front id
  | .replaySkippedGroup group => group ∈ call.member? ∧ .beginRadioGroup group ∉ front
  | _ => False

-- The recorded calls so far, each with what became of it, and where they have led the renderer.
-- The renderer is asked for those that are founded, and for nothing else.
inductive Course (r : Renderer σ κ γ) (start : σ) :
    List (Call × Fate κ γ) → Logged σ → Prop where
  | start : Course r start [] ⟨start, []⟩
  | issued {past now call request reply next log} : Course r start past now →
      Founded (past.map Prod.fst) call → Asks past call request →
      r.perform request now.value = ⟨(reply, next), log⟩ →
      Course r start (past ++ [(call, .issued request reply log)]) ⟨next, now.log ++ log⟩
  | skipped {past now call warning} : Course r start past now →
      ¬ Founded (past.map Prod.fst) call → Lacks (past.map Prod.fst) call warning →
      Course r start (past ++ [(call, .skipped warning)]) ⟨now.value, now.log ++ [warning]⟩

variable {r : Renderer σ κ γ} {past : List (Call × Fate κ γ)} {call : Call}
  {id : ContainerId} {mark : GroupId} {replay : Replay σ κ γ}

theorem Given.append {handle : κ} (h : Given past id handle) (more : List (Call × Fate κ γ)) :
    Given (past ++ more) id handle := by
  obtain ⟨call, request, log, hmem, hid⟩ := h
  exact ⟨call, request, log, List.mem_append_left _ hmem, hid⟩

theorem GivenGroup.append {handle : γ} (h : GivenGroup past mark handle)
    (more : List (Call × Fate κ γ)) : GivenGroup (past ++ more) mark handle := by
  obtain ⟨call, request, log, hmem, hmark⟩ := h
  exact ⟨call, request, log, List.mem_append_left _ hmem, hmark⟩

-- Where every number is given once, there is one handle for each.
theorem Given.unique (h : ((past.map Prod.fst).filterMap Call.container?).Nodup) {handle other : κ}
    (hgiven : Given past id handle) (hother : Given past id other) : handle = other := by
  obtain ⟨call, request, log, hmem, hid⟩ := hgiven
  obtain ⟨call', request', log', hmem', hid'⟩ := hother
  rw [List.filterMap_map] at h
  have hsame : (call, Fate.issued request (.container handle) log) =
      (call', .issued request' (.container other) log') :=
    Protocol.eq_of_nodup_filterMap h hmem hmem' hid hid'
  cases hsame
  rfl

theorem GivenGroup.unique (h : ((past.map Prod.fst).filterMap Call.group?).Nodup)
    {handle other : γ} (hgiven : GivenGroup past mark handle) (hother : GivenGroup past mark other) :
    handle = other := by
  obtain ⟨call, request, log, hmem, hmark⟩ := hgiven
  obtain ⟨call', request', log', hmem', hmark'⟩ := hother
  rw [List.filterMap_map] at h
  have hsame : (call, Fate.issued request (.group handle) log) =
      (call', .issued request' (.group other) log') :=
    Protocol.eq_of_nodup_filterMap h hmem hmem' hmark hmark'
  cases hsame
  rfl

theorem Lacks.level {front : List Call} {warning : Entry} (h : Lacks front call warning) :
    warning.level = .warn := by
  cases warning <;> first | rfl | exact h.elim

-- What the renderer was asked for, and what was warned of.

def requested (past : List (Call × Fate κ γ)) : List (Request κ γ) :=
  past.filterMap fun entry => entry.2.request?

def warned (past : List (Call × Fate κ γ)) : List Entry :=
  past.filterMap fun entry => entry.2.warning?

namespace Course

variable {state : σ} {now : Logged σ}

theorem value_eq (h : Course r state past now) :
    now.value = (r.performAll (requested past) state).value := by
  induction h with
  | start => rfl
  | @issued past now call request reply next log _ _ _ hperform ih =>
      have hrequested : requested (past ++ [(call, .issued request reply log)]) =
          requested past ++ [request] := List.filterMap_append
      rw [hrequested, r.value_performAll_append, ← ih]
      exact (congrArg (fun done => done.value.2) hperform).symm
  | @skipped past now call warning _ _ _ ih =>
      have hrequested : requested (past ++ [(call, .skipped warning)]) =
          requested past ++ [] := List.filterMap_append
      rw [hrequested, List.append_nil]
      exact ih

theorem level_of_mem_warned (h : Course r state past now) :
    ∀ warning ∈ warned past, warning.level = .warn := by
  induction h with
  | start => exact fun _ hmem => absurd hmem List.not_mem_nil
  | issued _ _ _ _ ih =>
      rw [warned, List.filterMap_append]
      exact List.forall_mem_append.mpr ⟨ih, fun _ hmem => absurd hmem List.not_mem_nil⟩
  | skipped _ _ hlacks ih =>
      rw [warned, List.filterMap_append]
      exact List.forall_mem_append.mpr ⟨ih, List.forall_mem_singleton.mpr hlacks.level⟩

end Course

theorem length_requested_add_length_warned (past : List (Call × Fate κ γ)) :
    (requested past).length + (warned past).length = past.length := by
  induction past with
  | nil => rfl
  | cons entry past ih =>
      obtain ⟨call, fate⟩ := entry
      cases fate <;> simp only [requested, warned, List.filterMap_cons, Fate.request?, Fate.warning?,
        List.length_cons] at ih ⊢ <;> omega

-- What a replay in its course knows: the handles that were given, of everything that is live.
structure Tracks (replay : Replay σ κ γ) (past : List (Call × Fate κ γ)) : Prop where
  given : ∀ {id handle}, replay.containers.lookup id = some handle → Given past id handle
  live_iff : ∀ id, (∃ handle, replay.containers.lookup id = some handle) ↔
    Live (past.map Prod.fst) id
  givenGroup : ∀ {group handle}, replay.groups.lookup group = some handle →
    GivenGroup past group handle
  begun_iff : ∀ group, (∃ handle, replay.groups.lookup group = some handle) ↔
    .beginRadioGroup group ∈ past.map Prod.fst

namespace Tracks

theorem start (state : σ) : Tracks (⟨state, [], []⟩ : Replay σ κ γ) [] where
  given := by simp
  live_iff id := by simp [not_live_nil]
  givenGroup := by simp
  begun_iff group := by simp

-- Nothing is made.
theorem keep (h : Tracks replay past) (hcontainer : ∀ id, call.container? = some id →
      ∃ home ∈ call.home?, ¬ Live (past.map Prod.fst) home)
    (hgroup : call.group? = none) (state : σ) (fate : Fate κ γ) :
    Tracks { replay with state } (past ++ [(call, fate)]) where
  given hid := (h.given hid).append _
  live_iff id := by
    rw [List.map_append, List.map_singleton, live_concat_iff, ← h.live_iff]
    refine (or_iff_left ?_).symm
    rintro ⟨hid, hhome⟩
    obtain ⟨home, hmem, hdead⟩ := hcontainer id hid
    exact hdead (hhome home hmem)
  givenGroup hid := (h.givenGroup hid).append _
  begun_iff group := by
    have hcall : Call.beginRadioGroup group ≠ call := by
      rintro rfl
      cases hgroup
    rw [List.map_append, List.map_singleton, List.mem_append, List.mem_singleton, ← h.begun_iff]
    exact (or_iff_left hcall).symm

theorem skip (h : Tracks replay past) (hcall : ¬ Founded (past.map Prod.fst) call)
    (warning : Entry) : Tracks replay (past ++ [(call, .skipped warning)]) := by
  refine h.keep (fun id hid => ?_) ?_ replay.state _
  · by_contra hlive
    refine hcall ⟨fun home hhome => ?_, fun group hgroup => ?_⟩
    · by_contra hdead
      exact hlive ⟨home, hhome, hdead⟩
    · cases call <;> cases hid <;> cases hgroup
  · cases call with
    | beginRadioGroup => exact absurd ⟨by simp [Call.home?], by simp [Call.member?]⟩ hcall
    | _ => rfl

theorem container (h : Tracks replay past) (hid : call.container? = some id)
    (hhome : ∀ home ∈ call.home?, Live (past.map Prod.fst) home) (state : σ) (handle : κ)
    (request : Request κ γ) (log : List Entry) :
    Tracks { replay with state, containers := (id, handle) :: replay.containers }
      (past ++ [(call, .issued request (.container handle) log)]) where
  given {id' handle'} hlookup := by
    rw [List.lookup_cons] at hlookup
    split at hlookup
    · rename_i heq
      obtain rfl := eq_of_beq heq
      obtain rfl := Option.some.inj hlookup
      exact ⟨call, request, log, by simp, hid⟩
    · exact (h.given hlookup).append _
  live_iff id' := by
    rw [List.map_append, List.map_singleton, live_concat_iff, ← h.live_iff, List.lookup_cons, hid]
    split
    · rename_i heq
      obtain rfl := eq_of_beq heq
      simpa using .inr hhome
    · rename_i hne
      have hne : id ≠ id' := fun heq => by simp [heq] at hne
      simp [hne]
  givenGroup hlookup := (h.givenGroup hlookup).append _
  begun_iff group := by
    have hcall : Call.beginRadioGroup group ≠ call := by
      rintro rfl
      cases hid
    rw [List.map_append, List.map_singleton, List.mem_append, List.mem_singleton, ← h.begun_iff]
    exact (or_iff_left hcall).symm

theorem group (h : Tracks replay past) (state : σ) (handle : γ) (request : Request κ γ)
    (log : List Entry) :
    Tracks { replay with state, groups := (mark, handle) :: replay.groups }
      (past ++ [(.beginRadioGroup mark, .issued request (.group handle) log)]) where
  given hlookup := (h.given hlookup).append _
  live_iff id := by
    rw [List.map_append, List.map_singleton, live_concat_iff, ← h.live_iff]
    simp [Call.container?]
  givenGroup {group handle'} hlookup := by
    rw [List.lookup_cons] at hlookup
    split at hlookup
    · rename_i heq
      obtain rfl := eq_of_beq heq
      obtain rfl := Option.some.inj hlookup
      exact ⟨.beginRadioGroup group, request, log, by simp, rfl⟩
    · exact (h.givenGroup hlookup).append _
  begun_iff group := by
    rw [List.map_append, List.map_singleton, List.mem_append, List.mem_singleton, ← h.begun_iff,
      List.lookup_cons, Call.beginRadioGroup.injEq]
    split
    · rename_i heq
      simp [eq_of_beq heq]
    · rename_i hne
      have hne : group ≠ mark := fun heq => by simp [heq] at hne
      simp [hne]

end Tracks

-- A replay that has gone on by one call as its course does.
structure Advances (r : Renderer σ κ γ) (replay : Replay σ κ γ) (past : List (Call × Fate κ γ))
    (call : Call) (fate : Fate κ γ) (issued : Logged (Replay σ κ γ)) : Prop where
  tracks : Tracks issued.value (past ++ [(call, fate)])
  course : ∀ {state log}, Course r state past ⟨replay.state, log⟩ →
    Course r state (past ++ [(call, fate)]) ⟨issued.value.state, log ++ issued.log⟩

namespace Tracks

theorem not_live (h : Tracks replay past) (hlookup : replay.containers.lookup id = none) :
    ¬ Live (past.map Prod.fst) id := by
  rw [← h.live_iff]
  simp [hlookup]

theorem advances_skip (h : Tracks replay past) (hid : id ∈ call.home?)
    (hlookup : replay.containers.lookup id = none) (act : κ → Logged (Replay σ κ γ)) :
    Advances r replay past call (.skipped (.replaySkippedContainer id))
      (onContainer id replay act) := by
  have hdead := h.not_live hlookup
  have hcall : ¬ Founded (past.map Prod.fst) call := fun hcall => hdead (hcall.home id hid)
  rw [onContainer, hlookup]
  exact ⟨h.skip hcall _, fun hcourse => .skipped hcourse hcall ⟨hid, hdead⟩⟩

-- A call on a container that makes nothing.
theorem advances_onContainer (h : Tracks replay past) (hhome : call.home? = some id)
    (hmember : call.member? = none) (hcontainer : call.container? = none)
    (hgroup : call.group? = none) {request : κ → Request κ γ}
    (hasks : ∀ {handle}, Given past id handle → Asks past call (request handle))
    {act : κ → Logged (Replay σ κ γ)}
    (hact : ∀ handle, act handle =
      ⟨{ replay with state := (r.perform (request handle) replay.state).value.2 },
        (r.perform (request handle) replay.state).log⟩) :
    ∃ fate, Advances r replay past call fate (onContainer id replay act) := by
  cases hlookup : replay.containers.lookup id with
  | none => exact ⟨_, h.advances_skip hhome hlookup act⟩
  | some handle =>
      have hcall : Founded (past.map Prod.fst) call := by
        refine ⟨fun home hid => ?_, by simp [hmember]⟩
        obtain rfl := Option.some.inj (hhome.symm.trans hid)
        exact (h.live_iff id).mp ⟨handle, hlookup⟩
      rw [onContainer, hlookup]
      simp only [hact]
      exact ⟨.issued (request handle) (r.perform (request handle) replay.state).value.1
        (r.perform (request handle) replay.state).log, h.keep (by simp [hcontainer]) hgroup _ _,
        fun hcourse => .issued hcourse hcall (hasks (h.given hlookup)) rfl⟩

-- One recorded call.
theorem advances_issue (r : Renderer σ κ γ) (h : Tracks replay past) (call : Call) :
    ∃ fate, Advances r replay past call fate (issue r call replay) := by
  cases call with
  | createWindow id title width height =>
      exact ⟨_, h.container rfl (by simp [Call.home?]) _ _ _ _,
        fun hcourse => .issued hcourse ⟨by simp [Call.home?], by simp [Call.member?]⟩
          .createWindow rfl⟩
  | setLayout id layout =>
      exact h.advances_onContainer rfl rfl rfl rfl .setLayout fun _ => rfl
  | addButton id label => exact h.advances_onContainer rfl rfl rfl rfl .addButton fun _ => rfl
  | addLabel id text => exact h.advances_onContainer rfl rfl rfl rfl .addLabel fun _ => rfl
  | addTextField id columns =>
      exact h.advances_onContainer rfl rfl rfl rfl .addTextField fun _ => rfl
  | beginPanel parent id =>
      cases hlookup : replay.containers.lookup parent with
      | none => exact ⟨_, h.advances_skip rfl hlookup _⟩
      | some handle =>
          have hhome : ∀ home ∈ (Call.beginPanel parent id).home?,
              Live (past.map Prod.fst) home := by
            rintro home ⟨⟩
            exact (h.live_iff parent).mp ⟨handle, hlookup⟩
          rw [issue, onContainer, hlookup]
          exact ⟨_, h.container rfl hhome _ _ _ _, fun hcourse =>
            .issued hcourse ⟨hhome, by simp [Call.member?]⟩ (.beginPanel (h.given hlookup)) rfl⟩
  | beginRadioGroup group =>
      exact ⟨_, h.group _ _ _ _,
        fun hcourse => .issued hcourse ⟨by simp [Call.home?], by simp [Call.member?]⟩
          .beginRadioGroup rfl⟩
  | addRadioButton group id label =>
      cases hlookup : replay.containers.lookup id with
      | none => exact ⟨_, h.advances_skip rfl hlookup _⟩
      | some handle =>
          have hhome : ∀ home ∈ (Call.addRadioButton group id label).home?,
              Live (past.map Prod.fst) home := by
            rintro home ⟨⟩
            exact (h.live_iff id).mp ⟨handle, hlookup⟩
          rw [issue, onContainer, hlookup]
          cases hgroup : replay.groups.lookup group with
          | none =>
              have hunbegun : .beginRadioGroup group ∉ past.map Prod.fst := by
                rw [← h.begun_iff]
                simp [hgroup]
              have hcall : ¬ Founded (past.map Prod.fst) (.addRadioButton group id label) :=
                fun hcall => hunbegun (hcall.member group rfl)
              simp only [onGroup, hgroup]
              exact ⟨.skipped (.replaySkippedGroup group), h.skip hcall _,
                fun hcourse => .skipped hcourse hcall ⟨rfl, hunbegun⟩⟩
          | some members =>
              have hmember : ∀ other ∈ (Call.addRadioButton group id label).member?,
                  .beginRadioGroup other ∈ past.map Prod.fst := by
                rintro other ⟨⟩
                exact (h.begun_iff group).mp ⟨members, hgroup⟩
              simp only [onGroup, hgroup]
              exact ⟨_, h.keep (by simp [Call.container?]) rfl _ _, fun hcourse =>
                .issued hcourse ⟨hhome, hmember⟩
                  (.addRadioButton (h.givenGroup hgroup) (h.given hlookup)) rfl⟩
  | showWindow id => exact h.advances_onContainer rfl rfl rfl rfl .showWindow fun _ => rfl

-- All recorded calls.
theorem exists_course (r : Renderer σ κ γ) (h : Tracks replay past) {state : σ} {log : List Entry}
    (hcourse : Course r state past ⟨replay.state, log⟩) (calls : List Call) :
    ∃ more, more.map Prod.fst = calls ∧
      Tracks (issueAll r calls replay).value (past ++ more) ∧
      Course r state (past ++ more)
        ⟨(issueAll r calls replay).value.state, log ++ (issueAll r calls replay).log⟩ := by
  induction calls generalizing replay past log with
  | nil => exact ⟨[], rfl, by rwa [List.append_nil], by simpa [issueAll] using hcourse⟩
  | cons call calls ih =>
      obtain ⟨fate, htracks, hnext⟩ := h.advances_issue r call
      obtain ⟨more, hmore, hrest, hlast⟩ := ih htracks (hnext hcourse)
      rw [List.append_assoc] at hrest hlast
      refine ⟨(call, fate) :: more, by simp [hmore], hrest, ?_⟩
      simpa [issueAll] using hlast

end Tracks

-- A replay has a handle for every container that is live, and for no other.
theorem exists_lookup_iff_live (r : Renderer σ κ γ) (state : σ) (calls : List Call)
    (id : ContainerId) :
    (∃ handle, (issueAll r calls ⟨state, [], []⟩).value.containers.lookup id = some handle) ↔
      Live calls id := by
  obtain ⟨past, rfl, htracks, -⟩ := (Tracks.start state).exists_course r .start calls
  rw [List.nil_append] at htracks
  exact htracks.live_iff id

theorem exists_course_replay (recording : Recording) (r : Renderer σ κ γ) (state : σ) :
    ∃ past log, past.map Prod.fst = recording.calls.toList ∧
      Course r state past ⟨(recording.replay r state).value, log⟩ ∧
      (recording.replay r state).log = .replaying recording.calls.size :: log := by
  obtain ⟨past, hcalls, -, hcourse⟩ :=
    (Tracks.start state).exists_course r .start recording.calls.toList
  refine ⟨past, _, hcalls, hcourse, ?_⟩
  simp only [Recording.replay, Logged.log_bind, Logged.log_note, Logged.log_pure, List.append_nil]
  rfl

end Replay

open Replay

-- Whatever was recorded, a replay asks the renderer in order for the calls that are founded, with
-- the handles that the renderer itself has answered with, and it warns once of each other call.
theorem replay_issues_founded (requests : List (Request ContainerId GroupId))
    (r : Renderer σ κ γ) (state : σ) :
    ∃ past log,
      past.map Prod.fst = (Recording.ofRequests requests).calls.toList ∧
      Course r state past ⟨((Recording.ofRequests requests).replay r state).value, log⟩ ∧
      ((Recording.ofRequests requests).replay r state).log =
        .replaying (Recording.ofRequests requests).calls.size :: log ∧
      ((Recording.ofRequests requests).replay r state).value =
        (r.performAll (requested past) state).value ∧
      (∀ warning ∈ warned past, warning.level = .warn) ∧
      (requested past).length + (warned past).length = (Recording.ofRequests requests).calls.size ∧
      (∀ id handle other, Given past id handle → Given past id other → handle = other) ∧
      ∀ group handle other, GivenGroup past group handle → GivenGroup past group other →
        handle = other := by
  obtain ⟨past, log, hcalls, hcourse, hlog⟩ :=
    exists_course_replay (Recording.ofRequests requests) r state
  have hsize : past.length = (Recording.ofRequests requests).calls.size := by
    rw [← List.length_map Prod.fst, hcalls, Array.length_toList]
  obtain ⟨hcontainers, hgroups⟩ := (Recording.numbered_ofRequests requests).nodup
  rw [← hcalls] at hcontainers hgroups
  exact ⟨past, log, hcalls, hcourse, hlog, hcourse.value_eq, hcourse.level_of_mem_warned,
    (length_requested_add_length_warned past).trans hsize,
    fun id handle other => Given.unique hcontainers,
    fun group handle other => GivenGroup.unique hgroups⟩

end WindowDoc
