import Mathlib.Data.List.Induction
import Mathlib.Data.List.Nodup
import WindowDoc.Recording.Replay
import WindowDoc.Proofs.Protocol.Basic

namespace WindowDoc

variable {σ κ γ : Type}

namespace Recording

-- What is recorded of some requests, whatever handles they name.
def ofRequests (requests : List (Request ContainerId GroupId)) : Recording :=
  (renderer.performAll requests empty).value

-- The call that is kept of a request.
def entry (recording : Recording) : Request ContainerId GroupId → Call
  | .createWindow title width height => .createWindow ⟨recording.containers⟩ title width height
  | .setLayout container layout => .setLayout container layout
  | .addButton container label => .addButton container label
  | .addLabel container text => .addLabel container text
  | .addTextField container columns => .addTextField container columns
  | .beginPanel parent => .beginPanel parent ⟨recording.containers⟩
  | .beginRadioGroup => .beginRadioGroup ⟨recording.groups⟩
  | .addRadioButton group container label => .addRadioButton group container label
  | .showWindow window => .showWindow window

def after (recording : Recording) (request : Request ContainerId GroupId) : Recording :=
  (renderer.perform request recording).value.2

variable (recording : Recording)

theorem ofRequests_concat (requests : List (Request ContainerId GroupId))
    (request : Request ContainerId GroupId) :
    ofRequests (requests ++ [request]) = (ofRequests requests).after request :=
  renderer.value_performAll_append requests [request] empty

@[simp] theorem toList_calls_after (request : Request ContainerId GroupId) :
    (recording.after request).calls.toList = recording.calls.toList ++ [recording.entry request] := by
  have hpush : (recording.after request).calls = recording.calls.push (recording.entry request) := by
    cases request <;> rfl
  rw [hpush, Array.toList_push]

-- The numbers that the calls of a recording have given out are those counted so far.
structure Numbered : Prop where
  containers : recording.calls.toList.filterMap Call.container? =
    (List.range recording.containers).map ContainerId.mk
  groups : recording.calls.toList.filterMap Call.group? =
    (List.range recording.groups).map GroupId.mk

variable {recording}

-- The handle that a call answers with is the number that it is recorded with.

theorem container?_entry_eq_some_iff {request : Request ContainerId GroupId} {id : ContainerId} :
    (recording.entry request).container? = some id ↔
      (renderer.perform request recording).value.1 = .container id := by
  cases request <;> constructor <;> rintro ⟨⟩ <;> rfl

theorem group?_entry_eq_some_iff {request : Request ContainerId GroupId} {group : GroupId} :
    (recording.entry request).group? = some group ↔
      (renderer.perform request recording).value.1 = .group group := by
  cases request <;> constructor <;> rintro ⟨⟩ <;> rfl

theorem numbered_empty : Numbered empty := ⟨rfl, rfl⟩

theorem Numbered.after (h : recording.Numbered) (request : Request ContainerId GroupId) :
    (recording.after request).Numbered := by
  constructor
  · rw [toList_calls_after, List.filterMap_append, h.containers]
    cases request with
    | createWindow | beginPanel =>
        exact ((congrArg _ List.range_succ).trans List.map_append).symm
    | _ => exact List.append_nil _
  · rw [toList_calls_after, List.filterMap_append, h.groups]
    cases request with
    | beginRadioGroup => exact ((congrArg _ List.range_succ).trans List.map_append).symm
    | _ => exact List.append_nil _

theorem numbered_ofRequests (requests : List (Request ContainerId GroupId)) :
    (ofRequests requests).Numbered := by
  induction requests using List.reverseRecOn with
  | nil => exact numbered_empty
  | append_singleton requests request ih =>
      rw [ofRequests_concat]
      exact ih.after request

theorem Numbered.nodup (h : recording.Numbered) :
    (recording.calls.toList.filterMap Call.container?).Nodup ∧
      (recording.calls.toList.filterMap Call.group?).Nodup := by
  rw [h.containers, h.groups]
  exact ⟨List.nodup_range.map fun _ _ => ContainerId.mk.inj,
    List.nodup_range.map fun _ _ => GroupId.mk.inj⟩

-- What a call answers with is given out by it, and it was not given out before.

theorem containers_after {request : Request ContainerId GroupId} {id : ContainerId}
    (hreply : (renderer.perform request recording).value.1 = .container id) :
    (recording.after request).calls.toList.filterMap Call.container? =
      recording.calls.toList.filterMap Call.container? ++ [id] := by
  rw [toList_calls_after, List.filterMap_append,
    List.filterMap_cons_some (container?_entry_eq_some_iff.mpr hreply), List.filterMap_nil]

theorem groups_after {request : Request ContainerId GroupId} {group : GroupId}
    (hreply : (renderer.perform request recording).value.1 = .group group) :
    (recording.after request).calls.toList.filterMap Call.group? =
      recording.calls.toList.filterMap Call.group? ++ [group] := by
  rw [toList_calls_after, List.filterMap_append,
    List.filterMap_cons_some (group?_entry_eq_some_iff.mpr hreply), List.filterMap_nil]

theorem Numbered.notMem_containers (h : recording.Numbered)
    {request : Request ContainerId GroupId} {id : ContainerId}
    (hreply : (renderer.perform request recording).value.1 = .container id) :
    id ∉ recording.calls.toList.filterMap Call.container? := by
  have hnodup := (h.after request).nodup.1
  rw [containers_after hreply] at hnodup
  exact fun hmem => List.disjoint_of_nodup_append hnodup hmem (List.mem_singleton_self id)

theorem Numbered.notMem_groups (h : recording.Numbered)
    {request : Request ContainerId GroupId} {group : GroupId}
    (hreply : (renderer.perform request recording).value.1 = .group group) :
    group ∉ recording.calls.toList.filterMap Call.group? := by
  have hnodup := (h.after request).nodup.2
  rw [groups_after hreply] at hnodup
  exact fun hmem => List.disjoint_of_nodup_append hnodup hmem (List.mem_singleton_self group)

end Recording

namespace Replay

-- A container that calls have made: a window, or a panel in a container made before it.
inductive Live : List Call → ContainerId → Prop where
  | window {front id title width height back} :
      Live (front ++ .createWindow id title width height :: back) id
  | panel {front parent id back} : Live front parent →
      Live (front ++ .beginPanel parent id :: back) id

-- A call that speaks of nothing but what the calls in front of it have made.
structure Founded (front : List Call) (call : Call) : Prop where
  home : ∀ id ∈ call.home?, Live front id
  member : ∀ group ∈ call.member?, .beginRadioGroup group ∈ front

variable {calls more : List Call} {call : Call} {id : ContainerId}

theorem not_live_nil : ¬ Live [] id := by
  intro h
  generalize hcalls : ([] : List Call) = calls at h
  cases h <;> simp at hcalls

theorem Live.append (h : Live calls id) (more : List Call) : Live (calls ++ more) id := by
  cases h with
  | window =>
      rw [List.append_assoc]
      exact .window
  | panel hparent =>
      rw [List.append_assoc]
      exact .panel hparent

theorem live_concat_iff : Live (calls ++ [call]) id ↔
    Live calls id ∨ call.container? = some id ∧ ∀ home ∈ call.home?, Live calls home := by
  constructor
  · intro h
    generalize hall : calls ++ [call] = all at h
    cases h with
    | @window front id title width height back =>
        obtain rfl | ⟨back, last, rfl⟩ := back.eq_nil_or_concat'
        · obtain ⟨rfl, hcall⟩ := List.append_inj' hall rfl
          obtain rfl := List.singleton_inj.mp hcall
          exact .inr ⟨rfl, fun home hhome => nomatch hhome⟩
        · rw [← List.cons_append, ← List.append_assoc] at hall
          obtain ⟨rfl, -⟩ := List.append_inj' hall rfl
          exact .inl .window
    | @panel front parent id back hparent =>
        obtain rfl | ⟨back, last, rfl⟩ := back.eq_nil_or_concat'
        · obtain ⟨rfl, hcall⟩ := List.append_inj' hall rfl
          obtain rfl := List.singleton_inj.mp hcall
          refine .inr ⟨rfl, ?_⟩
          rintro home ⟨⟩
          exact hparent
        · rw [← List.cons_append, ← List.append_assoc] at hall
          obtain ⟨rfl, -⟩ := List.append_inj' hall rfl
          exact .inl (.panel hparent)
  · rintro (h | ⟨hid, hhome⟩)
    · exact h.append _
    · cases call with
      | createWindow => cases hid; exact .window
      | beginPanel => cases hid; exact .panel (hhome _ rfl)
      | _ => cases hid

end Replay

end WindowDoc
