import WindowDoc.Proofs.Arena.ForeignHandles
import WindowDoc.Proofs.Replay.Course
import WindowDoc.Proofs.Simulation

namespace WindowDoc

open Replay Protocol

namespace Replay

variable {κ : Type} {names : List (ContainerId × κ)} {key id : ContainerId} {value handle : κ}

theorem lookup_cons_new_iff (hnew : names.lookup key = none) :
    ((key, value) :: names).lookup id = some handle ↔
      id = key ∧ handle = value ∨ names.lookup id = some handle := by
  rw [List.lookup_cons]
  split
  · rename_i heq
    obtain rfl := eq_of_beq heq
    simp [hnew, eq_comm]
  · rename_i hne
    have hne : id ≠ key := fun heq => by simp [heq] at hne
    simp [hne]

end Replay

namespace Recording

-- Every radio button names a container that is live when it is added.
def Seated (recording : Recording) : Prop :=
  Everywhere (fun front call _ => ∀ mark id label,
    call = .addRadioButton mark id label → Live front id) recording.calls.toList

theorem seated_after_iff {recording : Recording} (request : Request ContainerId GroupId) :
    (recording.after request).Seated ↔ recording.Seated ∧
      ∀ mark id label, request = .addRadioButton mark id label →
        Live recording.calls.toList id := by
  rw [Seated, toList_calls_after, everywhere_concat_iff]
  refine and_congr_right fun _ => ?_
  constructor
  · intro h mark id label hrequest
    exact h mark id label (congrArg recording.entry hrequest)
  · intro h mark id label hcall
    cases request with
    | addRadioButton =>
        cases hcall
        exact h mark id label rfl
    | _ => cases hcall

end Recording

namespace Assembler

-- Slots of two containers that hold the same, but for the numbers of the panels in them.
inductive SlotLike (names : List (ContainerId × ContainerId)) (home home' : ContainerId) :
    Slot → Slot → Prop where
  | widget {widget} : SlotLike names home home' (.widget widget) (.widget widget)
  | group {mark} : SlotLike names home home' (.group mark) (.group mark)
  | panel {id id'} : names.lookup id = some id' → home.index < id.index → home'.index < id'.index →
      SlotLike names home home' (.panel id) (.panel id')

structure BoxLike (names : List (ContainerId × ContainerId)) (home home' : ContainerId)
    (box box' : Container) : Prop where
  layout : box'.layout = box.layout
  slots : List.Forall₂ (SlotLike names home home') box.slots.toList box'.slots.toList

structure EntryLike (names : List (ContainerId × ContainerId)) (entry entry' : PendingWindow) :
    Prop where
  named : names.lookup entry.id = some entry'.id
  same : entry' = { entry with id := entry'.id }

-- A builder and a replay onto another one that shows the same. A container that is not live has no
-- name in the replay, and no container that has one holds it, so it is never seen.
structure Mirrors (a : Assembler) (replay : Replay Assembler ContainerId GroupId) : Prop where
  boxes : ∀ {id id'}, replay.containers.lookup id = some id' → ∃ box box',
    a.containers[id.index]? = some box ∧ replay.state.containers[id'.index]? = some box' ∧
      BoxLike replay.containers id id' box box'
  apart : ∀ {id other id'}, replay.containers.lookup id = some id' →
    replay.containers.lookup other = some id' → id = other
  -- groups are begun on either side, so that their numbers agree
  groups : replay.state.groups = a.groups
  marks : ∀ mark, replay.groups.lookup mark =
    if mark.index < a.groups.size then some mark else none
  pending : List.Forall₂ (EntryLike replay.containers) a.pending replay.state.pending
  windows : replay.state.windows = a.windows

variable {a : Assembler} {replay : Replay Assembler ContainerId GroupId}
  {names more : List (ContainerId × ContainerId)} {home home' id id' : ContainerId}
  {mark : GroupId}

namespace BoxLike

variable {box box' : Container}

theorem push (h : BoxLike names home home' box box') {slot slot' : Slot}
    (hslot : SlotLike names home home' slot slot') :
    BoxLike names home home' (box.push slot) (box'.push slot') := by
  refine ⟨h.layout, ?_⟩
  rw [Container.push, Container.push, Array.toList_push, Array.toList_push]
  exact List.rel_append h.slots (.cons hslot .nil)

theorem mono (h : BoxLike names home home' box box')
    (hmore : ∀ {id id'}, names.lookup id = some id' → more.lookup id = some id') :
    BoxLike more home home' box box' := by
  refine ⟨h.layout, h.slots.imp fun slot slot' hslot => ?_⟩
  cases hslot with
  | widget => exact .widget
  | group => exact .group
  | panel hid hlt hlt' => exact .panel (hmore hid) hlt hlt'

end BoxLike

-- Where one of two lists has the first of something, the other has it too.
theorem forall₂_find? {α β : Type} {R : α → β → Prop} {p : α → Bool} {q : β → Bool} {xs : List α}
    {ys : List β} (h : List.Forall₂ R xs ys) (hpq : ∀ {x y}, R x y → p x = q y) :
    Option.Rel R (xs.find? p) (ys.find? q) ∧ List.Forall₂ R (xs.eraseP p) (ys.eraseP q) := by
  induction h with
  | nil => exact ⟨.none, .nil⟩
  | @cons x y xs ys hxy hrest ih =>
      rw [List.find?_cons, List.find?_cons, List.eraseP_cons, List.eraseP_cons, ← hpq hxy]
      cases p x with
      | false => exact ⟨ih.1, .cons hxy ih.2⟩
      | true => exact ⟨.some hxy, hrest⟩

namespace Mirrors

theorem empty : Mirrors empty ⟨.empty, [], []⟩ where
  boxes := by simp
  apart := by simp
  groups := rfl
  marks mark := by simp [Assembler.empty]
  pending := .nil
  windows := rfl

theorem lt_size (h : Mirrors a replay) (hid : replay.containers.lookup id = some id') :
    id.index < a.containers.size ∧ id'.index < replay.state.containers.size := by
  obtain ⟨box, box', hbox, hbox', -⟩ := h.boxes hid
  exact ⟨(Array.getElem?_eq_some_iff.mp hbox).1, (Array.getElem?_eq_some_iff.mp hbox').1⟩

-- What is done to a container that has no name does not matter.
theorem update_nameless (h : Mirrors a replay) (hid : replay.containers.lookup id = none)
    (change : Container → Container) : Mirrors (a.update id change) replay := by
  refine ⟨fun {other other'} hother => ?_, h.apart, h.groups, h.marks, h.pending, h.windows⟩
  obtain ⟨box, box', hbox, hbox', hlike⟩ := h.boxes hother
  have hne : id.index ≠ other.index := by
    intro heq
    have hsame : id = other := congrArg ContainerId.mk heq
    rw [hsame, hother] at hid
    cases hid
  refine ⟨box, box', ?_, hbox', hlike⟩
  rw [update, Array.getElem?_modify, if_neg hne, hbox]

-- The same is done to two containers that correspond.
theorem update (h : Mirrors a replay) (hid : replay.containers.lookup id = some id')
    {change change' : Container → Container}
    (hchange : ∀ {box box'}, BoxLike replay.containers id id' box box' →
      BoxLike replay.containers id id' (change box) (change' box')) :
    Mirrors (a.update id change) { replay with state := replay.state.update id' change' } := by
  refine ⟨fun {other other'} hother => ?_, h.apart, h.groups, h.marks, h.pending, h.windows⟩
  obtain ⟨box, box', hbox, hbox', hlike⟩ := h.boxes hother
  simp only [Assembler.update, Array.getElem?_modify, hbox, hbox']
  by_cases hsame : id = other
  · subst hsame
    obtain rfl := Option.some.inj (hid.symm.trans hother)
    exact ⟨change box, change' box', by simp, by simp, hchange hlike⟩
  · have hne : id.index ≠ other.index := fun heq => hsame (congrArg ContainerId.mk heq)
    have hne' : id'.index ≠ other'.index := by
      intro heq
      have hsame' : id' = other' := congrArg ContainerId.mk heq
      rw [hsame'] at hid
      exact hsame (h.apart hid hother)
    exact ⟨box, box', if_neg hne, if_neg hne', hlike⟩

-- A container may be made that gets no name.
theorem addContainer_nameless (h : Mirrors a replay) : Mirrors a.addContainer.2 replay := by
  refine ⟨fun {id id'} hid => ?_, h.apart, h.groups, h.marks, h.pending, h.windows⟩
  obtain ⟨box, box', hbox, hbox', hlike⟩ := h.boxes hid
  exact ⟨box, box', (getElem?_addContainer_of_lt (h.lt_size hid).1).trans hbox, hbox', hlike⟩

theorem lookup_size (h : Mirrors a replay) :
    replay.containers.lookup ⟨a.containers.size⟩ = none := by
  rw [Option.eq_none_iff_forall_ne_some]
  intro id' hid
  exact Nat.lt_irrefl _ (h.lt_size hid).1

-- Two empty containers correspond.
theorem addContainer (h : Mirrors a replay) :
    Mirrors a.addContainer.2
      { replay with
        state := replay.state.addContainer.2
        containers := (⟨a.containers.size⟩, ⟨replay.state.containers.size⟩) :: replay.containers } := by
  have hlookup {id id' : ContainerId} :
      ((⟨a.containers.size⟩, ⟨replay.state.containers.size⟩) :: replay.containers).lookup id =
          some id' ↔
        id = ⟨a.containers.size⟩ ∧ id' = ⟨replay.state.containers.size⟩ ∨
          replay.containers.lookup id = some id' :=
    lookup_cons_new_iff h.lookup_size
  have hmore {id id' : ContainerId} (hid : replay.containers.lookup id = some id') :=
    hlookup.mpr (.inr hid)
  refine ⟨fun {id id'} hid => ?_, fun {id other id'} hid hother => ?_, h.groups, h.marks,
    h.pending.imp fun entry entry' hlike => ⟨hmore hlike.named, hlike.same⟩, h.windows⟩
  · obtain ⟨rfl, rfl⟩ | hid := hlookup.mp hid
    · exact ⟨.empty, .empty, Array.getElem?_push_size, Array.getElem?_push_size, rfl, .nil⟩
    · obtain ⟨box, box', hbox, hbox', hlike⟩ := h.boxes hid
      obtain ⟨hlt, hlt'⟩ := h.lt_size hid
      exact ⟨box, box', (getElem?_addContainer_of_lt hlt).trans hbox,
        (getElem?_addContainer_of_lt hlt').trans hbox', hlike.mono hmore⟩
  · obtain ⟨rfl, rfl⟩ | hid := hlookup.mp hid <;> obtain ⟨rfl, hsame⟩ | hother := hlookup.mp hother
    · rfl
    · exact absurd (h.lt_size hother).2 (Nat.lt_irrefl _)
    · subst hsame
      exact absurd (h.lt_size hid).2 (Nat.lt_irrefl _)
    · exact h.apart hid hother

-- Groups are the same on either side.
theorem regroup (h : Mirrors a replay) {groups : Array (List String)}
    (hsize : groups.size = a.groups.size) :
    Mirrors { a with groups } { replay with state := { replay.state with groups } } :=
  ⟨h.boxes, h.apart, rfl, fun mark => by rw [h.marks, hsize], h.pending, h.windows⟩

-- Containers that correspond are seen alike.
theorem assemble_eq (h : Mirrors a replay) (hid : replay.containers.lookup id = some id') :
    replay.state.assemble id'.index = a.assemble id.index := by
  induction hleft : a.containers.size - id.index using Nat.strongRecOn generalizing id id' with
  | ind left ih =>
      obtain ⟨box, box', hbox, hbox', hlike⟩ := h.boxes hid
      rw [assemble_of_getElem? hbox, assemble_of_getElem? hbox', hlike.layout]
      refine congrArg _ (List.forall₂_eq_eq_eq ▸ ?_)
      rw [List.forall₂_map_left_iff, List.forall₂_map_right_iff]
      refine hlike.slots.flip.imp fun slot' slot hslot => ?_
      cases hslot with
      | widget => rfl
      | group => rw [slotWidget, slotWidget, h.groups]
      | @panel inner inner' hinner hlt hlt' =>
          obtain ⟨hmade, hmade'⟩ := h.lt_size hinner
          rw [slotWidget, slotWidget, if_pos ⟨hlt', hmade'⟩, if_pos ⟨hlt, hmade⟩,
            ih _ (by omega) hinner rfl]

-- A request that does one thing to one container.
theorem onContainer (h : Mirrors a replay) (id : ContainerId) (change : Container → Container)
    (hchange : ∀ {home home' box box'}, BoxLike replay.containers home home' box box' →
      BoxLike replay.containers home home' (change box) (change box'))
    {act : ContainerId → Logged (Replay Assembler ContainerId GroupId)}
    (hact : ∀ handle, (act handle).value =
      { replay with state := replay.state.update handle change }) :
    Mirrors (a.update id change) (onContainer id replay act).value := by
  rw [Replay.onContainer]
  cases hid : replay.containers.lookup id with
  | none => exact h.update_nameless hid change
  | some handle =>
      simp only [hact]
      exact h.update hid hchange

theorem addWidget (h : Mirrors a replay) (id : ContainerId) (widget : Widget)
    {act : ContainerId → Logged (Replay Assembler ContainerId GroupId)}
    (hact : ∀ handle, (act handle).value =
      { replay with state := (replay.state.addSlot handle (.widget widget)).value }) :
    Mirrors (a.addSlot id (.widget widget)).value (Replay.onContainer id replay act).value := by
  rw [value_addSlot_eq]
  refine h.onContainer id _ (fun hlike => hlike.push .widget) fun handle => ?_
  rw [hact, value_addSlot_eq]

theorem createWindow (h : Mirrors a replay) (title : String) (width height : Int32) :
    Mirrors (a.after (.createWindow title width height))
      (issue renderer (.createWindow ⟨a.containers.size⟩ title width height) replay).value :=
  { h.addContainer with
    pending := List.rel_append h.addContainer.pending
      (.cons ⟨List.lookup_cons_self, rfl⟩ .nil) }

-- Where the parent has no name, neither has the panel.
theorem beginPanel (h : Mirrors a replay) (parent : ContainerId) :
    Mirrors (a.after (.beginPanel parent))
      (issue renderer (.beginPanel parent ⟨a.containers.size⟩) replay).value := by
  rw [after_beginPanel, issue, Replay.onContainer]
  cases hparent : replay.containers.lookup parent with
  | none => exact h.addContainer_nameless.update_nameless hparent _
  | some parent' =>
      obtain ⟨hlt, hlt'⟩ := h.lt_size hparent
      have hold : ((⟨a.containers.size⟩, ⟨replay.state.containers.size⟩) ::
          replay.containers).lookup parent = some parent' :=
        (lookup_cons_new_iff h.lookup_size).mpr (.inr hparent)
      have hpush := h.addContainer.update hold fun hlike =>
        hlike.push (.panel List.lookup_cons_self hlt hlt')
      rw [← replay.state.after_beginPanel parent'] at hpush
      exact hpush

theorem beginRadioGroup (h : Mirrors a replay) :
    Mirrors (a.after .beginRadioGroup)
      (issue renderer (.beginRadioGroup ⟨a.groups.size⟩) replay).value := by
  refine ⟨h.boxes, h.apart, congrArg (·.push []) h.groups, fun mark => ?_, h.pending, h.windows⟩
  have hsize : (a.after .beginRadioGroup).groups.size = a.groups.size + 1 :=
    groups_size_after_beginRadioGroup
  have hlookup : (issue renderer (.beginRadioGroup ⟨a.groups.size⟩) replay).value.groups =
      (⟨a.groups.size⟩, ⟨a.groups.size⟩) :: replay.groups := by
    rw [← h.groups]
    rfl
  rw [hsize, hlookup, List.lookup_cons, h.marks]
  split
  · rename_i heq
    obtain rfl := eq_of_beq heq
    exact (if_pos (Nat.lt_succ_self _)).symm
  · rename_i hne
    have hne : mark.index ≠ a.groups.size := by
      intro heq
      simp [← heq] at hne
    simp only [Nat.lt_succ_iff_lt_or_eq, hne, or_false]

theorem addRadioButton (h : Mirrors a replay) (mark : GroupId)
    (hid : replay.containers.lookup id = some id') (label : String) :
    Mirrors (a.after (.addRadioButton mark id label))
      (issue renderer (.addRadioButton mark id label) replay).value := by
  obtain ⟨hmade, hmade'⟩ := h.lt_size hid
  have hafter : a.after (.addRadioButton mark id label) =
      (a.addRadioButton mark id label).value := rfl
  rw [hafter, issue, Replay.onContainer, hid]
  simp only [onGroup, h.marks]
  cases hlabels : a.groups[mark.index]? with
  | none =>
      rw [if_neg (Nat.not_lt.mpr (Array.getElem?_eq_none_iff.mp hlabels)), Assembler.addRadioButton,
        hlabels]
      exact h
  | some labels =>
      have hlabels' : replay.state.groups[mark.index]? = some labels := by rw [h.groups, hlabels]
      have hstate := value_addRadioButton hlabels' hmade' label
      rw [h.groups] at hstate
      have hissued : Mirrors (a.addRadioButton mark id label).value
          { replay with state := (replay.state.addRadioButton mark id' label).value } := by
        have hjoined : Mirrors { a with groups := a.groups.modify mark.index (· ++ [label]) }
            { replay with state :=
              { replay.state with groups := a.groups.modify mark.index (· ++ [label]) } } :=
          h.regroup Array.size_modify
        rw [value_addRadioButton hlabels hmade, hstate]
        split
        · exact hjoined.update hid fun hlike => hlike.push .group
        · exact hjoined
      rw [if_pos (Array.getElem?_eq_some_iff.mp hlabels).1]
      exact hissued

theorem pending_named (h : Mirrors a replay) :
    ∀ entry ∈ a.pending, ∃ id', replay.containers.lookup entry.id = some id' :=
  ((List.forall₂_and_left _ _).mp
    (h.pending.imp fun _ _ hlike => ⟨⟨_, hlike.named⟩, hlike⟩)).1

theorem showWindow (h : Mirrors a replay) (id : ContainerId) :
    Mirrors (a.after (.showWindow id)) (issue renderer (.showWindow id) replay).value := by
  rw [issue, Replay.onContainer]
  cases hid : replay.containers.lookup id with
  | none =>
      obtain ⟨hafter, -⟩ | ⟨entry, hentry, rfl, -⟩ := a.after_showWindow id
      · rw [hafter]
        exact h
      · obtain ⟨id', hname⟩ := h.pending_named entry hentry
        rw [hid] at hname
        cases hname
  | some id' =>
      have hsame {entry entry' : PendingWindow} (hlike : EntryLike replay.containers entry entry') :
          decide (entry.id = id) = decide (entry'.id = id') := by
        refine decide_eq_decide.mpr ⟨fun heq => ?_, fun heq => ?_⟩
        · rw [← heq, hlike.named] at hid
          exact Option.some.inj hid
        · rw [← heq] at hid
          exact h.apart hlike.named hid
      obtain ⟨hfind, herase⟩ := forall₂_find? h.pending hsame
      have hissued : Mirrors (a.showWindow id).value
          { replay with state := (replay.state.showWindow id').value } := by
        cases hentry : a.pending.find? (·.id = id) <;>
          cases hentry' : replay.state.pending.find? (·.id = id') <;>
          rw [hentry, hentry'] at hfind <;> cases hfind
        case none.none =>
          rw [value_showWindow_of_none hentry, value_showWindow_of_none hentry']
          exact h
        case some.some entry entry' hlike =>
          rw [value_showWindow hentry, value_showWindow hentry']
          refine ⟨h.boxes, h.apart, h.groups, h.marks, herase, ?_⟩
          have hshown := h.assemble_eq hid
          rw [h.windows, hshown, hlike.same]
      exact hissued

end Mirrors

-- A recording and a builder that have made equally many containers and groups.
structure Abreast (recording : Recording) (a : Assembler) : Prop where
  containers : recording.containers = a.containers.size
  groups : recording.groups = a.groups.size

namespace Abreast

variable {recording : Recording}

theorem empty : Abreast .empty .empty := ⟨rfl, rfl⟩

theorem reply_eq (h : Abreast recording a) (request : Request ContainerId GroupId) :
    (Recording.renderer.perform request recording).value.1 =
      (renderer.perform request a).value.1 := by
  have hcontainer : Reply.container ⟨recording.containers⟩ =
      (.container ⟨a.containers.size⟩ : Reply ContainerId GroupId) := by rw [h.containers]
  have hgroup : Reply.group ⟨recording.groups⟩ =
      (.group ⟨a.groups.size⟩ : Reply ContainerId GroupId) := by rw [h.groups]
  cases request with
  | createWindow | beginPanel => exact hcontainer
  | beginRadioGroup => exact hgroup
  | _ => rfl

theorem after (h : Abreast recording a) (request : Request ContainerId GroupId) :
    Abreast (recording.after request) (a.after request) := by
  constructor
  · cases request with
    | createWindow title width height =>
        rw [size_after_createWindow, ← h.containers]
        rfl
    | beginPanel parent =>
        rw [size_after_beginPanel, ← h.containers]
        rfl
    | showWindow window =>
        rw [containers_after_showWindow]
        exact h.containers
    | _ =>
        rw [(change_after (by simp) (by simp) (by simp)).size_eq]
        exact h.containers
  · cases request with
    | beginRadioGroup =>
        rw [groups_size_after_beginRadioGroup, ← h.groups]
        rfl
    | _ =>
        rw [groups_size_after (by simp)]
        exact h.groups

theorem run (requests : List (Request ContainerId GroupId)) :
    Abreast (.ofRequests requests) (run requests) := by
  induction requests using List.reverseRecOn with
  | nil => exact .empty
  | append_singleton requests request ih =>
      rw [Recording.ofRequests_concat, Assembler.run, afterAll_append]
      exact ih.after request

theorem replies_eq (h : Abreast recording a) (requests : List (Request ContainerId GroupId)) :
    Recording.renderer.replies requests recording = renderer.replies requests a := by
  induction requests generalizing recording a with
  | nil => rfl
  | cons request requests ih =>
      exact congrArg₂ List.cons (h.reply_eq request) (ih (h.after request))

end Abreast

-- One more request, of which the recording keeps a call that is issued then.
theorem Mirrors.after (h : Mirrors a replay) {recording : Recording} (habreast : Abreast recording a)
    (request : Request ContainerId GroupId)
    (hradio : ∀ mark id label, request = .addRadioButton mark id label →
      ∃ id', replay.containers.lookup id = some id') :
    Mirrors (a.after request) (issue renderer (recording.entry request) replay).value := by
  cases request with
  | createWindow title width height =>
      rw [Recording.entry, habreast.containers]
      exact h.createWindow title width height
  | setLayout id layout =>
      rw [after_setLayout, Recording.entry, issue]
      exact h.onContainer id (fun box => { box with layout }) (fun hlike => ⟨rfl, hlike.slots⟩)
        fun handle => congrArg (fun state => { replay with state }) (after_setLayout handle layout)
  | addButton id label => exact h.addWidget id (.button label) fun _ => rfl
  | addLabel id text => exact h.addWidget id (.label text) fun _ => rfl
  | addTextField id columns => exact h.addWidget id (.textField columns) fun _ => rfl
  | beginPanel parent =>
      rw [Recording.entry, habreast.containers]
      exact h.beginPanel parent
  | beginRadioGroup =>
      rw [Recording.entry, habreast.groups]
      exact h.beginRadioGroup
  | addRadioButton mark id label =>
      obtain ⟨id', hid⟩ := hradio mark id label rfl
      exact h.addRadioButton mark hid label
  | showWindow window => exact h.showWindow window

theorem mirrors_run {requests : List (Request ContainerId GroupId)}
    (hseated : (Recording.ofRequests requests).Seated) :
    Mirrors (run requests) (issueAll renderer (Recording.ofRequests requests).calls.toList
      ⟨.empty, [], []⟩).value := by
  induction requests using List.reverseRecOn with
  | nil => exact .empty
  | append_singleton requests request ih =>
      rw [Recording.ofRequests_concat, Recording.seated_after_iff] at hseated
      rw [Recording.ofRequests_concat, Recording.toList_calls_after, issueAll_append, run,
        afterAll_append]
      refine (ih hseated.1).after (Abreast.run requests) request fun mark id label hrequest => ?_
      rw [exists_lookup_iff_live]
      exact hseated.2 mark id label hrequest

-- Whatever handles are named, requests are answered in the same way when they are recorded, and
-- the recording leads to the same windows when it is replayed, provided that every radio button
-- names a container that is live when it is added.
theorem windows_replay (requests : List (Request ContainerId GroupId))
    (hseated : (Recording.ofRequests requests).Seated) :
    Recording.renderer.replies requests .empty = renderer.replies requests empty ∧
      ((Recording.ofRequests requests).replay renderer empty).value.windows =
        (run requests).windows :=
  ⟨Abreast.empty.replies_eq requests, (mirrors_run hseated).windows⟩

-- A label before there is anything, a panel in a container that nobody made and one in it, a panel
-- that is begun in itself, one begun in a container that is only made later, and a group that
-- nobody began.
def astray : List (Request ContainerId GroupId) :=
  [.addLabel ⟨0⟩ "early", .createWindow "W" 1 1, .beginPanel ⟨9⟩, .addButton ⟨1⟩ "lost",
    .beginPanel ⟨1⟩, .beginPanel ⟨0⟩, .beginPanel ⟨4⟩, .beginPanel ⟨6⟩, .beginPanel ⟨3⟩,
    .beginRadioGroup, .addRadioButton ⟨0⟩ ⟨6⟩ "A", .addRadioButton ⟨5⟩ ⟨0⟩ "B",
    .addRadioButton ⟨0⟩ ⟨0⟩ "C", .setLayout ⟨6⟩ (.grid 2 1 none), .showWindow ⟨4⟩, .showWindow ⟨0⟩]

theorem windows_replay_astray :
    (Recording.ofRequests astray).Seated ∧
      ((Recording.ofRequests astray).replay renderer empty).value.windows =
        #[⟨"W", 1, 1, .flow, [.panel .flow [.panel (.grid 2 1 none) [.radioGroup ["A", "C"]]]]⟩] := by
  have hseated : (Recording.ofRequests astray).Seated := by
    have hcalls : (Recording.ofRequests astray).calls.toList =
        [.addLabel ⟨0⟩ "early", .createWindow ⟨0⟩ "W" 1 1, .beginPanel ⟨9⟩ ⟨1⟩,
          .addButton ⟨1⟩ "lost", .beginPanel ⟨1⟩ ⟨2⟩, .beginPanel ⟨0⟩ ⟨3⟩, .beginPanel ⟨4⟩ ⟨4⟩,
          .beginPanel ⟨6⟩ ⟨5⟩, .beginPanel ⟨3⟩ ⟨6⟩, .beginRadioGroup ⟨0⟩,
          .addRadioButton ⟨0⟩ ⟨6⟩ "A", .addRadioButton ⟨5⟩ ⟨0⟩ "B", .addRadioButton ⟨0⟩ ⟨0⟩ "C",
          .setLayout ⟨6⟩ (.grid 2 1 none), .showWindow ⟨4⟩, .showWindow ⟨0⟩] := rfl
    simp only [Recording.Seated, hcalls, everywhere_cons_iff, everywhere_nil, reduceCtorEq, false_implies,
      implies_true, true_and, and_true, ← exists_lookup_iff_live renderer empty]
    refine ⟨?_, ?_, ?_⟩ <;> rintro mark id label ⟨⟩ <;> exact ⟨_, rfl⟩
  refine ⟨hseated, ?_⟩
  rw [(windows_replay astray hseated).2]
  decide +kernel

end Assembler

end WindowDoc
