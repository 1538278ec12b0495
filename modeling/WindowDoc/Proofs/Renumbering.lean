import WindowDoc.Proofs.Replay.Basic
import WindowDoc.Proofs.Reuse

namespace WindowDoc

-- Numbers that are counted from further on.

def ContainerId.shift (made : Nat) (id : ContainerId) : ContainerId := ⟨made + id.index⟩

def GroupId.shift (begun : Nat) (id : GroupId) : GroupId := ⟨begun + id.index⟩

def Call.shift (made begun : Nat) : Call → Call
  | .createWindow id title width height => .createWindow (id.shift made) title width height
  | .setLayout container layout => .setLayout (container.shift made) layout
  | .addButton container label => .addButton (container.shift made) label
  | .addLabel container text => .addLabel (container.shift made) text
  | .addTextField container columns => .addTextField (container.shift made) columns
  | .beginPanel parent id => .beginPanel (parent.shift made) (id.shift made)
  | .beginRadioGroup id => .beginRadioGroup (id.shift begun)
  | .addRadioButton group container label =>
      .addRadioButton (group.shift begun) (container.shift made) label
  | .showWindow window => .showWindow (window.shift made)

-- A recording behind another one, with its numbers counted on from there.
def Recording.followedBy (earlier later : Recording) : Recording :=
  ⟨earlier.calls ++ later.calls.map (Call.shift earlier.containers earlier.groups),
    earlier.containers + later.containers, earlier.groups + later.groups⟩

namespace Recording

theorem followedBy_empty (earlier : Recording) : earlier.followedBy empty = earlier := by
  simp [followedBy, empty]

theorem followedBy_push (earlier later : Recording) (call : Call) (made begun : Nat) :
    (⟨(earlier.followedBy later).calls.push (call.shift earlier.containers earlier.groups),
        earlier.containers + (later.containers + made),
        earlier.groups + (later.groups + begun)⟩ : Recording) =
      earlier.followedBy ⟨later.calls.push call, later.containers + made, later.groups + begun⟩ := by
  simp [followedBy, Array.push_append]

end Recording

namespace Scene

open Recording

-- What is recorded in the course of a document, behind what was recorded before.
def behind (earlier : Recording) (scene : Scene Recording ContainerId GroupId) :
    Scene Recording ContainerId GroupId :=
  ⟨earlier.followedBy scene.state, scene.containers.map (.shift earlier.containers),
    scene.group.map (.shift earlier.groups)⟩

variable (earlier : Recording) (scene : Scene Recording ContainerId GroupId)

theorem within_behind {act act' : ContainerId → Logged (Scene Recording ContainerId GroupId)}
    (h : ∀ id, (act' (id.shift earlier.containers)).value = (act id).value.behind earlier) :
    ((scene.behind earlier).within act').value = (scene.within act).value.behind earlier := by
  obtain ⟨recording, containers, group⟩ := scene
  cases containers with
  | nil => rfl
  | cons id outer => exact h id

theorem perform_behind (event : Event) :
    ((scene.behind earlier).perform renderer event).value =
      (scene.perform renderer event).value.behind earlier := by
  have hpush (call : Call) (containers : List ContainerId) (group : Option GroupId) :
      (⟨⟨(earlier.followedBy scene.state).calls.push (call.shift earlier.containers earlier.groups),
          earlier.containers + scene.state.containers, earlier.groups + scene.state.groups⟩,
          containers.map (.shift earlier.containers), group.map (.shift earlier.groups)⟩ :
          Scene Recording ContainerId GroupId) =
        (⟨⟨scene.state.calls.push call, scene.state.containers, scene.state.groups⟩, containers,
          group⟩ : Scene Recording ContainerId GroupId).behind earlier :=
    congrArg (Scene.mk · _ _) (earlier.followedBy_push scene.state call 0 0)
  cases event with
  | openWindow title width height =>
      exact congrArg (Scene.mk · _ _) (earlier.followedBy_push scene.state
        (.createWindow ⟨scene.state.containers⟩ title width height) 1 0)
  | layout layout => exact scene.within_behind earlier fun id => hpush (.setLayout id layout) _ _
  | button label => exact scene.within_behind earlier fun id => hpush (.addButton id label) _ _
  | label text => exact scene.within_behind earlier fun id => hpush (.addLabel id text) _ _
  | textField columns =>
      exact scene.within_behind earlier fun id => hpush (.addTextField id columns) _ _
  | openPanel =>
      exact scene.within_behind earlier fun id =>
        congrArg (Scene.mk · _ _) (earlier.followedBy_push scene.state
          (.beginPanel id ⟨scene.state.containers⟩) 1 0)
  | closePanel => simp [Scene.perform, behind, List.map_tail]
  | openGroup =>
      exact congrArg (Scene.mk · _ _) (earlier.followedBy_push scene.state
        (.beginRadioGroup ⟨scene.state.groups⟩) 0 1)
  | radio label =>
      obtain ⟨recording, containers, group⟩ := scene
      refine within_behind earlier _ fun id => ?_
      cases group with
      | none => rfl
      | some group => exact hpush (.addRadioButton group id label) containers (some group)
  | closeGroup => rfl
  | showWindow => exact scene.within_behind earlier fun id => hpush (.showWindow id) _ _

theorem performAll_behind (events : List Event) :
    ((scene.behind earlier).performAll renderer events).value =
      (scene.performAll renderer events).value.behind earlier := by
  induction events generalizing scene with
  | nil => rfl
  | cons event events ih =>
      rw [performAll, performAll, Logged.value_bind, Logged.value_bind, perform_behind, ih]

theorem state_performAll_start (events : List Event) :
    (Scene.performAll renderer (.start earlier) events).value.state =
      earlier.followedBy (Scene.performAll renderer (.start empty) events).value.state := by
  have hstart : (Scene.start empty).behind earlier = .start earlier := by
    simp [behind, Scene.start, followedBy_empty]
  rw [← hstart, performAll_behind]
  rfl

-- Performing the statements of a document is making calls.

variable {σ κ γ : Type} (r : Renderer σ κ γ)

theorem exists_requests_within (scene : Scene σ κ γ) {act : κ → Logged (Scene σ κ γ)}
    (h : ∀ container, ∃ requests,
      (act container).value.state = (r.performAll requests scene.state).value) :
    ∃ requests, (scene.within act).value.state = (r.performAll requests scene.state).value := by
  obtain ⟨state, containers, group⟩ := scene
  cases containers with
  | nil => exact ⟨[], rfl⟩
  | cons container outer => exact h container

theorem exists_requests_perform (scene : Scene σ κ γ) (event : Event) :
    ∃ requests, (scene.perform r event).value.state = (r.performAll requests scene.state).value := by
  cases event with
  | openWindow title width height => exact ⟨[.createWindow title width height], rfl⟩
  | layout layout =>
      exact scene.exists_requests_within r fun container => ⟨[.setLayout container layout], rfl⟩
  | button label =>
      exact scene.exists_requests_within r fun container => ⟨[.addButton container label], rfl⟩
  | label text =>
      exact scene.exists_requests_within r fun container => ⟨[.addLabel container text], rfl⟩
  | textField columns =>
      exact scene.exists_requests_within r fun container => ⟨[.addTextField container columns], rfl⟩
  | openPanel => exact scene.exists_requests_within r fun container => ⟨[.beginPanel container], rfl⟩
  | closePanel | closeGroup => exact ⟨[], rfl⟩
  | openGroup => exact ⟨[.beginRadioGroup], rfl⟩
  | radio label =>
      obtain ⟨state, containers, group⟩ := scene
      refine exists_requests_within r _ fun container => ?_
      cases group with
      | none => exact ⟨[], rfl⟩
      | some group => exact ⟨[.addRadioButton group container label], rfl⟩
  | showWindow => exact scene.exists_requests_within r fun container => ⟨[.showWindow container], rfl⟩

theorem exists_requests (scene : Scene σ κ γ) (events : List Event) :
    ∃ requests, (scene.performAll r events).value.state =
      (r.performAll requests scene.state).value := by
  induction events generalizing scene with
  | nil => exact ⟨[], rfl⟩
  | cons event events ih =>
      obtain ⟨requests, hfirst⟩ := scene.exists_requests_perform r event
      obtain ⟨more, hrest⟩ := ih (scene.perform r event).value
      refine ⟨requests ++ more, ?_⟩
      rw [r.value_performAll_append, ← hfirst]
      exact hrest

end Scene

theorem exists_requests_parse {σ κ γ : Type} (r : Renderer σ κ γ) (options : Options)
    (source : String) (state : σ) :
    ∃ requests, (parse r options source state).value.state = (r.performAll requests state).value := by
  obtain ⟨requests, hdrawn⟩ := (Scene.start state : Scene σ κ γ).exists_requests r
    (Reading.ofText options.maxNesting source).events
  cases hresult : (Reading.ofText options.maxNesting source).result with
  | ok => exact ⟨requests, (state_parse_of_ok r state hresult).trans hdrawn⟩
  | error fault =>
      obtain ⟨-, hstate⟩ | ⟨-, hstate⟩ := state_parse_of_error r state hresult
      · exact ⟨[], hstate⟩
      · exact ⟨requests, hstate.trans hdrawn⟩

namespace Recording

open Assembler (Use)

def use (recording : Recording) : Use → Recording
  | .call request => recording.after request
  | .document options source => (parse renderer options source recording).value.state

-- A recording that may hold calls with any handles and whole documents, complete or not.
def used (uses : List Use) : Recording := uses.foldl use empty

theorem exists_requests_used (uses : List Use) : ∃ requests, used uses = ofRequests requests := by
  induction uses using List.reverseRecOn with
  | nil => exact ⟨[], rfl⟩
  | append_singleton uses last ih =>
      obtain ⟨requests, hused⟩ := ih
      rw [used, List.foldl_append, ← used, hused]
      cases last with
      | call request => exact ⟨requests ++ [request], (ofRequests_concat requests request).symm⟩
      | document options source =>
          obtain ⟨more, hmore⟩ := exists_requests_parse renderer options source (ofRequests requests)
          exact ⟨requests ++ more,
            hmore.trans (renderer.value_performAll_append requests more empty).symm⟩

theorem state_parse_behind (options : Options) (source : String) (earlier : Recording) :
    (parse renderer options source earlier).value.state =
      earlier.followedBy (parse renderer options source empty).value.state := by
  have hstreaming (limit : Nat) : (parseStreaming renderer limit source earlier).value.state =
      earlier.followedBy (parseStreaming renderer limit source empty).value.state := by
    rw [state_parseStreaming, state_parseStreaming, Scene.state_performAll_start]
  obtain ⟨commit, limit⟩ := options
  cases commit with
  | streaming =>
      rw [value_parse_streaming, value_parse_streaming]
      exact hstreaming limit
  | atomic =>
      rw [value_parse_atomic, value_parse_atomic]
      cases (Reading.ofText limit source).result with
      | error fault => exact earlier.followedBy_empty.symm
      | ok => exact hstreaming limit

-- Whatever a recording was used for, a document adds to it what it leaves in a new one, with the
-- numbers counted on. The number that a call answers with is recorded with it, and it was never
-- given out before.
theorem parse_appends (uses : List Use) (options : Options) (source : String) :
    (parse renderer options source (used uses)).value =
        ⟨(parse renderer options source empty).value.result,
          (used uses).followedBy (parse renderer options source empty).value.state⟩ ∧
      (∀ fault, options.commit = .atomic →
        (parse renderer options source empty).value.result = .error fault →
          (parse renderer options source (used uses)).value.state = used uses) ∧
      (used uses).Numbered ∧
      ((used uses).calls.toList.filterMap Call.container?).Nodup ∧
      ((used uses).calls.toList.filterMap Call.group?).Nodup ∧
      ∀ request,
        (∀ id, (renderer.perform request (used uses)).value.1 = .container id →
          id ∉ (used uses).calls.toList.filterMap Call.container? ∧
            ((used uses).after request).calls.toList.filterMap Call.container? =
              (used uses).calls.toList.filterMap Call.container? ++ [id]) ∧
        ∀ group, (renderer.perform request (used uses)).value.1 = .group group →
          group ∉ (used uses).calls.toList.filterMap Call.group? ∧
            ((used uses).after request).calls.toList.filterMap Call.group? =
              (used uses).calls.toList.filterMap Call.group? ++ [group] := by
  obtain ⟨requests, hused⟩ := exists_requests_used uses
  have hnumbered : (used uses).Numbered := hused ▸ numbered_ofRequests requests
  refine ⟨?_, ?_, hnumbered, hnumbered.nodup.1, hnumbered.nodup.2, fun request => ⟨?_, ?_⟩⟩
  · rw [value_parse renderer options source (used uses), ← state_parse_behind, result_parse]
  · obtain ⟨commit, limit⟩ := options
    rintro fault rfl hfault
    rw [result_parse] at hfault
    rw [value_parse_atomic, hfault]
  · intro id hreply
    exact ⟨hnumbered.notMem_containers hreply, containers_after hreply⟩
  · intro group hreply
    exact ⟨hnumbered.notMem_groups hreply, groups_after hreply⟩

end Recording

end WindowDoc
