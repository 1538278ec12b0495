import WindowDoc.Proofs.Replay.Course

namespace WindowDoc

open Replay Protocol

namespace Recording

-- What is recorded when a recording is replayed onto a new one.
def copy (recording : Recording) : Recording := (recording.replay renderer empty).value

-- No call speaks of anything that the calls before it have not made.
def Closed (recording : Recording) : Prop :=
  Everywhere (fun front call _ => Founded front call) recording.calls.toList

variable {recording : Recording}

theorem closed_after_iff (request : Request ContainerId GroupId) :
    (recording.after request).Closed ↔
      recording.Closed ∧ Founded recording.calls.toList (recording.entry request) := by
  rw [Closed, toList_calls_after, everywhere_concat_iff]
  rfl

theorem entry_eq_beginRadioGroup {request : Request ContainerId GroupId} {group : GroupId}
    (h : (renderer.perform request recording).value.1 = .group group) :
    recording.entry request = .beginRadioGroup group := by
  cases request <;> cases h
  rfl

theorem log_perform (request : Request ContainerId GroupId) (recording : Recording) :
    (renderer.perform request recording).log = [] := by
  cases request <;> rfl

-- What was recorded last.
theorem eq_concat_of_calls_eq {calls : List Call} {call : Call}
    {requests : List (Request ContainerId GroupId)}
    (h : calls ++ [call] = (ofRequests requests).calls.toList) :
    ∃ before request, requests = before ++ [request] ∧
      calls = (ofRequests before).calls.toList ∧ call = (ofRequests before).entry request := by
  obtain rfl | ⟨before, request, rfl⟩ := requests.eq_nil_or_concat'
  · simp [ofRequests, Renderer.performAll, empty] at h
  · rw [ofRequests_concat, toList_calls_after] at h
    obtain ⟨hbefore, hlast⟩ := List.append_inj' h rfl
    exact ⟨before, request, rfl, hbefore, List.singleton_inj.mp hlast⟩

end Recording

open Recording

namespace Replay

section Given

variable {κ γ : Type} {past : List (Call × Fate κ γ)} {call : Call} {fate : Fate κ γ}

theorem not_given_nil {id : ContainerId} {handle : κ} :
    ¬ Given ([] : List (Call × Fate κ γ)) id handle :=
  fun ⟨_, _, _, hmem, _⟩ => List.not_mem_nil hmem

theorem not_givenGroup_nil {mark : GroupId} {handle : γ} :
    ¬ GivenGroup ([] : List (Call × Fate κ γ)) mark handle :=
  fun ⟨_, _, _, hmem, _⟩ => List.not_mem_nil hmem

theorem Given.cases_concat {id : ContainerId} {handle : κ}
    (h : Given (past ++ [(call, fate)]) id handle) : Given past id handle ∨
      call.container? = some id ∧ ∃ request log, fate = .issued request (.container handle) log := by
  obtain ⟨call', request, log, hmem, hid⟩ := h
  obtain hmem | hmem := List.mem_append.mp hmem
  · exact .inl ⟨call', request, log, hmem, hid⟩
  · obtain ⟨rfl, rfl⟩ := Prod.mk.inj (List.mem_singleton.mp hmem)
    exact .inr ⟨hid, request, log, rfl⟩

theorem GivenGroup.cases_concat {mark : GroupId} {handle : γ}
    (h : GivenGroup (past ++ [(call, fate)]) mark handle) : GivenGroup past mark handle ∨
      call.group? = some mark ∧ ∃ request log, fate = .issued request (.group handle) log := by
  obtain ⟨call', request, log, hmem, hmark⟩ := h
  obtain hmem | hmem := List.mem_append.mp hmem
  · exact .inl ⟨call', request, log, hmem, hmark⟩
  · obtain ⟨rfl, rfl⟩ := Prod.mk.inj (List.mem_singleton.mp hmem)
    exact .inr ⟨hmark, request, log, rfl⟩

end Given

variable {past : List (Call × Fate ContainerId GroupId)} {now : Logged Recording}

-- What a copy is like at any time: it speaks of nothing but what it has made itself, and the
-- handles that it has given stand for such things.
structure Settled (past : List (Call × Fate ContainerId GroupId)) (copy : Recording) : Prop where
  closed : copy.Closed
  given : ∀ {id handle}, Given past id handle → Live copy.calls.toList handle
  givenGroup : ∀ {mark handle}, GivenGroup past mark handle →
    .beginRadioGroup handle ∈ copy.calls.toList

-- What is asked of the copy speaks of such things.
theorem Settled.founded {copy : Recording} (h : Settled past copy) {call : Call}
    {request : Request ContainerId GroupId} (hasks : Asks past call request) :
    Founded copy.calls.toList (copy.entry request) := by
  have hhome {home : ContainerId} (hlive : Live copy.calls.toList home) :
      ∀ id ∈ some home, Live copy.calls.toList id := by
    rintro id ⟨⟩
    exact hlive
  cases hasks with
  | createWindow | beginRadioGroup => exact ⟨nofun, nofun⟩
  | setLayout hgiven | addButton hgiven | addLabel hgiven | addTextField hgiven
  | beginPanel hgiven | showWindow hgiven => exact ⟨hhome (h.given hgiven), nofun⟩
  | addRadioButton hgroup hgiven =>
      refine ⟨hhome (h.given hgiven), ?_⟩
      rintro mark ⟨⟩
      exact h.givenGroup hgroup

theorem Settled.after {copy : Recording} (h : Settled past copy) {call : Call}
    {request : Request ContainerId GroupId} (hasks : Asks past call request) (log : List Entry) :
    Settled (past ++ [(call, .issued request (renderer.perform request copy).value.1 log)])
      (copy.after request) where
  closed := (closed_after_iff request).mpr ⟨h.closed, h.founded hasks⟩
  given hgiven := by
    rw [toList_calls_after, live_concat_iff]
    obtain hold | ⟨-, request', log', hfate⟩ := hgiven.cases_concat
    · exact .inl (h.given hold)
    · obtain ⟨rfl, hreply, -⟩ := Fate.issued.inj hfate
      exact .inr ⟨container?_entry_eq_some_iff.mpr hreply, (h.founded hasks).home⟩
  givenGroup hgiven := by
    rw [toList_calls_after, List.mem_append, List.mem_singleton]
    obtain hold | ⟨-, request', log', hfate⟩ := hgiven.cases_concat
    · exact .inl (h.givenGroup hold)
    · obtain ⟨rfl, hreply, -⟩ := Fate.issued.inj hfate
      exact .inr (entry_eq_beginRadioGroup hreply).symm

-- Every handle that was given is the number it was given for.
structure Echoes (past : List (Call × Fate ContainerId GroupId)) : Prop where
  given : ∀ {id handle}, Given past id handle → handle = id
  givenGroup : ∀ {mark handle}, GivenGroup past mark handle → handle = mark

theorem Echoes.after (h : Echoes past) (copy : Recording)
    (request : Request ContainerId GroupId) (log : List Entry) :
    Echoes (past ++ [(copy.entry request,
      .issued request (renderer.perform request copy).value.1 log)]) where
  given hgiven := by
    obtain hold | ⟨hid, _, _, hfate⟩ := hgiven.cases_concat
    · exact h.given hold
    · obtain ⟨-, hreply, -⟩ := Fate.issued.inj hfate
      exact Option.some.inj ((container?_entry_eq_some_iff.mpr hreply).symm.trans hid)
  givenGroup hgiven := by
    obtain hold | ⟨hmark, _, _, hfate⟩ := hgiven.cases_concat
    · exact h.givenGroup hold
    · obtain ⟨-, hreply, -⟩ := Fate.issued.inj hfate
      rw [entry_eq_beginRadioGroup hreply] at hmark
      exact Option.some.inj hmark

-- A request for what a call was kept of, with the same handles, is the one that it was kept of.
theorem Asks.eq_of_entry {copy : Recording} {original request : Request ContainerId GroupId}
    (h : Asks past (copy.entry original) request) (hechoes : Echoes past) : request = original := by
  cases original with
  | createWindow | beginRadioGroup =>
      cases h
      rfl
  | addRadioButton group id label =>
      cases h with
      | addRadioButton hgroup hid => rw [hechoes.given hid, hechoes.givenGroup hgroup]
  | _ =>
      cases h
      rename_i hid
      rw [hechoes.given hid]

namespace Course

theorem settled (h : Course renderer empty past now) : Settled past now.value := by
  induction h with
  | start =>
      exact ⟨everywhere_nil, fun h => absurd h not_given_nil, fun h => absurd h not_givenGroup_nil⟩
  | @issued past now call request reply next log _ _ hasks hperform ih =>
      have hnext := ih.after hasks log
      rw [Recording.after, hperform] at hnext
      exact hnext
  | skipped _ _ _ ih =>
      refine ⟨ih.closed, fun hgiven => ?_, fun hgiven => ?_⟩
      · obtain hold | ⟨-, _, _, hfate⟩ := hgiven.cases_concat
        · exact ih.given hold
        · cases hfate
      · obtain hold | ⟨-, _, _, hfate⟩ := hgiven.cases_concat
        · exact ih.givenGroup hold
        · cases hfate

-- Where nothing is lacking, recording goes the same way again, with the same numbers.
theorem echo (h : Course renderer empty past now) {requests : List (Request ContainerId GroupId)}
    (hcalls : past.map Prod.fst = (ofRequests requests).calls.toList)
    (hclosed : (ofRequests requests).Closed) :
    now = ⟨ofRequests requests, []⟩ ∧ Echoes past := by
  induction h generalizing requests with
  | start =>
      obtain rfl | ⟨requests, request, rfl⟩ := requests.eq_nil_or_concat'
      · exact ⟨rfl, fun h => absurd h not_given_nil, fun h => absurd h not_givenGroup_nil⟩
      · rw [ofRequests_concat, toList_calls_after] at hcalls
        simp at hcalls
  | @issued past now call request reply next log _ _ hasks hperform ih =>
      rw [List.map_append] at hcalls
      obtain ⟨before, original, rfl, hbefore, rfl⟩ := eq_concat_of_calls_eq hcalls
      rw [ofRequests_concat, closed_after_iff] at hclosed
      obtain ⟨rfl, hechoes⟩ := ih hbefore hclosed.1
      obtain rfl : request = original := hasks.eq_of_entry hechoes
      obtain rfl : log = [] :=
        (congrArg Logged.log hperform).symm.trans (log_perform request (ofRequests before))
      obtain ⟨rfl, hnext⟩ := Prod.mk.inj (congrArg Logged.value hperform)
      rw [ofRequests_concat]
      exact ⟨congrArg (Logged.mk · []) hnext.symm, hechoes.after (ofRequests before) request []⟩
  | skipped _ hcall _ _ =>
      rw [List.map_append] at hcalls
      obtain ⟨before, original, rfl, hbefore, rfl⟩ := eq_concat_of_calls_eq hcalls
      rw [ofRequests_concat, closed_after_iff, ← hbefore] at hclosed
      exact absurd hclosed.2 hcall

-- Where nothing is warned of, nothing is lacking.
theorem everywhere_founded {σ κ γ : Type} {r : Renderer σ κ γ} {state : σ}
    {past : List (Call × Fate κ γ)} {now : Logged σ} (h : Course r state past now)
    (hquiet : now.Quiet) : Everywhere (fun front call _ => Founded front call)
      (past.map Prod.fst) := by
  induction h with
  | start => exact everywhere_nil
  | issued _ hcall _ _ ih =>
      rw [Logged.Quiet, Logged.warnings, List.filter_append, List.append_eq_nil_iff] at hquiet
      rw [List.map_append, List.map_singleton, everywhere_concat_iff]
      exact ⟨ih hquiet.1, hcall⟩
  | skipped _ _ hlacks _ =>
      simp [Logged.Quiet, Logged.warnings, hlacks.level] at hquiet

end Course

end Replay

namespace Recording

variable {requests : List (Request ContainerId GroupId)}

theorem Closed.replay_eq (h : (ofRequests requests).Closed) :
    (ofRequests requests).replay renderer empty =
      ⟨ofRequests requests, [.replaying (ofRequests requests).calls.size]⟩ := by
  obtain ⟨past, log, hcalls, hcourse, hlog⟩ :=
    exists_course_replay (ofRequests requests) renderer empty
  obtain ⟨hvalue, hnone⟩ := Logged.mk.inj (hcourse.echo hcalls h).1
  rw [hnone] at hlog
  exact congrArg₂ Logged.mk hvalue hlog

theorem quiet_replay_iff : ((ofRequests requests).replay renderer empty).Quiet ↔
    (ofRequests requests).Closed := by
  constructor
  · intro hquiet
    obtain ⟨past, log, hcalls, hcourse, hlog⟩ :=
      exists_course_replay (ofRequests requests) renderer empty
    rw [Logged.Quiet, hlog] at hquiet
    rw [Closed, ← hcalls]
    exact hcourse.everywhere_founded hquiet
  · intro hclosed
    rw [hclosed.replay_eq]
    rfl

-- A copy is itself something that was recorded, and it is closed.
theorem exists_copy (recording : Recording) :
    ∃ requests, recording.copy = ofRequests requests ∧ (ofRequests requests).Closed := by
  obtain ⟨past, log, -, hcourse, -⟩ := exists_course_replay recording renderer empty
  have hcopy : recording.copy = ofRequests (requested past) := hcourse.value_eq
  exact ⟨requested past, hcopy, hcopy ▸ hcourse.settled.closed⟩

-- Replaying a recording onto a new one leaves out what speaks of things that were never made, and
-- numbers the rest anew. What comes of it stays the same from then on, numbers included, and it is
-- the recording itself just if nothing was left out.
theorem copy_replays_itself (requests : List (Request ContainerId GroupId)) :
    (ofRequests requests).copy.Closed ∧
      (ofRequests requests).copy.replay renderer empty =
        ⟨(ofRequests requests).copy, [.replaying (ofRequests requests).copy.calls.size]⟩ ∧
      ((ofRequests requests).copy = ofRequests requests ↔
        ((ofRequests requests).replay renderer empty).Quiet) ∧
      ((ofRequests requests).copy.calls = (ofRequests requests).calls ↔
        ((ofRequests requests).replay renderer empty).Quiet) ∧
      (((ofRequests requests).replay renderer empty).Quiet ↔ (ofRequests requests).Closed) := by
  obtain ⟨copied, hcopy, hclosed⟩ := (ofRequests requests).exists_copy
  have hsame : ((ofRequests requests).replay renderer empty).Quiet →
      (ofRequests requests).copy = ofRequests requests := by
    intro hquiet
    rw [copy, (quiet_replay_iff.mp hquiet).replay_eq]
  have hquiet : (ofRequests requests).copy.calls = (ofRequests requests).calls →
      ((ofRequests requests).replay renderer empty).Quiet := by
    intro hcalls
    rw [quiet_replay_iff, Closed, ← hcalls, hcopy]
    exact hclosed
  refine ⟨hcopy ▸ hclosed, ?_, ⟨fun h => hquiet (congrArg calls h), hsame⟩,
    ⟨hquiet, fun h => congrArg calls (hsame h)⟩, quiet_replay_iff⟩
  rw [hcopy, hclosed.replay_eq]

end Recording

end WindowDoc
