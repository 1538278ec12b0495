import WindowDoc.Assembler
import WindowDoc.Proofs.Outline

namespace WindowDoc

namespace Widget

-- How a widget is kept while its window is under construction, where `made` containers and
-- `begun` groups were numbered before: the slot that stands for it, and the containers and
-- groups that come with it in the order of their numbers.

def slot (made begun : Nat) : Widget → Slot
  | button caption => .widget (.button caption)
  | label text => .widget (.label text)
  | textField columns => .widget (.textField columns)
  | panel _ _ => .panel ⟨made⟩
  | radioGroup _ => .group ⟨begun⟩

def slots (made begun : Nat) : List Widget → List Slot
  | [] => []
  | widget :: rest =>
      widget.slot made begun :: slots (made + widget.panels) (begun + widget.groups) rest

mutual

def containers (made begun : Nat) : Widget → List Container
  | button _ | label _ | textField _ | radioGroup _ => []
  | panel layout children =>
      ⟨layout, (slots (made + 1) begun children).toArray⟩
        :: containersAll (made + 1) begun children

def containersAll (made begun : Nat) : List Widget → List Container
  | [] => []
  | widget :: rest =>
      widget.containers made begun
        ++ containersAll (made + widget.panels) (begun + widget.groups) rest

end

mutual

def groupLabels : Widget → List (List String)
  | button _ | label _ | textField _ => []
  | panel _ children => groupLabelsAll children
  | radioGroup labels => [labels]

def groupLabelsAll : List Widget → List (List String)
  | [] => []
  | widget :: rest => widget.groupLabels ++ groupLabelsAll rest

end

mutual

-- Every group in the widget has a button.
def GroupsFilled : Widget → Prop
  | button _ | label _ | textField _ => True
  | panel _ children => GroupsFilledAll children
  | radioGroup labels => labels ≠ []

def GroupsFilledAll : List Widget → Prop
  | [] => True
  | widget :: rest => widget.GroupsFilled ∧ GroupsFilledAll rest

end

mutual

theorem length_containers (made begun : Nat) : (widget : Widget) →
    (widget.containers made begun).length = widget.panels
  | .button _ | .label _ | .textField _ | .radioGroup _ => rfl
  | .panel layout children => by
      rw [containers, List.length_cons, length_containersAll, panels]

theorem length_containersAll (made begun : Nat) : (widgets : List Widget) →
    (containersAll made begun widgets).length = panelsAll widgets
  | [] => rfl
  | widget :: rest => by
      rw [containersAll, List.length_append, length_containers, length_containersAll, panelsAll]

end

mutual

theorem length_groupLabels : (widget : Widget) → widget.groupLabels.length = widget.groups
  | .button _ | .label _ | .textField _ | .radioGroup _ => rfl
  | .panel _ children => length_groupLabelsAll children

theorem length_groupLabelsAll : (widgets : List Widget) →
    (groupLabelsAll widgets).length = groupsAll widgets
  | [] => rfl
  | widget :: rest => by
      rw [groupLabelsAll, List.length_append, length_groupLabels, length_groupLabelsAll, groupsAll]

end

end Widget

namespace Assembler

-- More slots in one container, and containers and groups after those there are.
def grow (a : Assembler) (home : Nat) (slots : List Slot) (containers : List Container)
    (groups : List (List String)) : Assembler :=
  { a with
    containers :=
      a.containers.modify home (fun box => ⟨box.layout, box.slots ++ slots.toArray⟩)
        ++ containers.toArray
    groups := a.groups ++ groups.toArray }

variable {a : Assembler} {home : Nat}

theorem size_grow (a : Assembler) (home : Nat) (slots : List Slot) (containers : List Container)
    (groups : List (List String)) :
    (a.grow home slots containers groups).containers.size = a.containers.size + containers.length ∧
      (a.grow home slots containers groups).groups.size = a.groups.size + groups.length := by
  simp [grow]

theorem grow_nil (a : Assembler) (home : Nat) : a.grow home [] [] [] = a := by
  have hsame : a.containers.modify home (fun box => ⟨box.layout, box.slots ++ #[]⟩) =
      a.containers := by
    apply Array.ext
    · simp
    · intro i _ _
      simp [Array.getElem_modify]
  rw [grow, hsame, Array.append_empty, Array.append_empty]

theorem grow_grow (hhome : home < a.containers.size) (s s' : List Slot) (c c' : List Container)
    (g g' : List (List String)) :
    (a.grow home s c g).grow home s' c' g' = a.grow home (s ++ s') (c ++ c') (g ++ g') := by
  have htwice : (a.containers.modify home (fun box => ⟨box.layout, box.slots ++ s.toArray⟩)
        ++ c.toArray).modify home (fun box => ⟨box.layout, box.slots ++ s'.toArray⟩) =
      a.containers.modify home (fun box => ⟨box.layout, box.slots ++ (s ++ s').toArray⟩)
        ++ c.toArray := by
    apply Array.ext
    · simp
    · intro i _ _
      simp only [Array.getElem_modify, Array.getElem_append, Array.size_modify]
      grind
  simp only [grow, htwice, Array.append_assoc, List.append_toArray]

-- More slots in the container made last.
theorem grow_last (a : Assembler) (home : Nat) (s s' : List Slot) (layout : Layout)
    (c : List Container) (g : List (List String)) :
    (a.grow home s [⟨layout, #[]⟩] []).grow a.containers.size s' c g =
      a.grow home s (⟨layout, s'.toArray⟩ :: c) g := by
  have hlast (xs : Array Container) :
      (xs ++ [Container.mk layout #[]].toArray).modify xs.size
        (fun box => ⟨box.layout, box.slots ++ s'.toArray⟩) =
      xs ++ [Container.mk layout s'.toArray].toArray := by
    apply Array.ext
    · simp
    · intro i _ _
      simp only [Array.getElem_modify, Array.getElem_append]
      grind
  have hmodified := hlast (a.containers.modify home
    (fun box => ⟨box.layout, box.slots ++ s.toArray⟩))
  rw [Array.size_modify] at hmodified
  simp only [grow, hmodified, Array.append_assoc, List.append_toArray, List.singleton_append,
    List.nil_append]

section Perform

variable {outer : List ContainerId}

theorem value_addSlot (hhome : home < a.containers.size) (slot : Slot) :
    (a.addSlot ⟨home⟩ slot).value = a.grow home [slot] [] [] := by
  simp [addSlot, isContainer, hhome, grow, update, Container.push]

-- A panel that is opened and given its layout.
theorem value_performAll_openPanel (hhome : home < a.containers.size) (layout : Layout) :
    (Scene.performAll renderer ⟨a, ⟨home⟩ :: outer, none⟩ [.openPanel, .layout layout]).value =
      ⟨a.grow home [.panel ⟨a.containers.size⟩] [⟨layout, #[]⟩] [],
        ⟨a.containers.size⟩ :: ⟨home⟩ :: outer, none⟩ := by
  have hmade : home < a.addContainer.2.containers.size := by
    simp only [addContainer, Array.size_push]
    omega
  have hcalls : (Scene.performAll renderer ⟨a, ⟨home⟩ :: outer, none⟩
      [.openPanel, .layout layout]).value =
      ⟨(renderer.setLayout ⟨a.containers.size⟩ layout
          (a.addContainer.2.addSlot ⟨home⟩ (.panel ⟨a.containers.size⟩)).value).value,
        ⟨a.containers.size⟩ :: ⟨home⟩ :: outer, none⟩ := rfl
  have hcontainers (xs : Array Container) (f : Container → Container) (hlt : home < xs.size) :
      ((xs.push .empty).modify home f).modify xs.size (fun box => { box with layout }) =
        xs.modify home f ++ #[⟨layout, #[]⟩] := by
    apply Array.ext
    · simp
    · intro i _ _
      simp only [Array.getElem_modify, Array.getElem_append, Array.getElem_push, Array.size_modify]
      grind [Container.empty]
  rw [hcalls, value_addSlot hmade]
  simp [renderer, isContainer, update, grow, addContainer, hcontainers _ _ hhome]

theorem modify_push_size {α : Type} (xs : Array α) (x : α) (f : α → α) :
    (xs.push x).modify xs.size f = xs.push (f x) := by
  apply Array.ext
  · simp
  · intro i _ _
    simp only [Array.getElem_modify, Array.getElem_push]
    grind

-- A group that has a button takes more of them, whatever container they name.
theorem value_performAll_radio (a : Assembler) (id : ContainerId) (outer : List ContainerId)
    (groups : Array (List String)) (label : String) (done labels : List String)
    (hgroups : a.groups = groups.push (label :: done)) :
    (Scene.performAll renderer ⟨a, id :: outer, some ⟨groups.size⟩⟩ (labels.map .radio)).value =
      ⟨{ a with groups := groups.push (label :: done ++ labels) }, id :: outer,
        some ⟨groups.size⟩⟩ := by
  induction labels generalizing a done with
  | nil =>
      rw [List.append_nil, ← hgroups]
      rfl
  | cons more labels ih =>
      have hjoined : (a.addRadioButton ⟨groups.size⟩ id more).value =
          { a with groups := groups.push (label :: (done ++ [more])) } := by
        simp [addRadioButton, hgroups, modify_push_size]
      have hstep : (Scene.performAll renderer ⟨a, id :: outer, some ⟨groups.size⟩⟩
            ((more :: labels).map .radio)).value =
          (Scene.performAll renderer ⟨(a.addRadioButton ⟨groups.size⟩ id more).value,
            id :: outer, some ⟨groups.size⟩⟩ (labels.map .radio)).value := rfl
      rw [hstep, hjoined, ih _ (done ++ [more]) rfl]
      simp

-- A group takes its place with its first button.
theorem value_performAll_group (hhome : home < a.containers.size) (outer : List ContainerId)
    (label : String) (labels : List String) :
    (Scene.performAll renderer ⟨a, ⟨home⟩ :: outer, none⟩
        ([.openGroup] ++ (label :: labels).map .radio)).value =
      ⟨a.grow home [.group ⟨a.groups.size⟩] [] [label :: labels], ⟨home⟩ :: outer,
        some ⟨a.groups.size⟩⟩ := by
  have hjoined : (Assembler.addRadioButton ⟨a.groups.size⟩ ⟨home⟩ label
      { a with groups := a.groups.push [] }).value =
      a.grow home [.group ⟨a.groups.size⟩] [] [[label]] := by
    simp [addRadioButton, modify_push_size, isContainer, hhome, update, grow, Container.push]
  have hfirst : (Scene.performAll renderer ⟨a, ⟨home⟩ :: outer, none⟩
        ([.openGroup] ++ (label :: labels).map .radio)).value =
      (Scene.performAll renderer ⟨(Assembler.addRadioButton ⟨a.groups.size⟩ ⟨home⟩ label
          { a with groups := a.groups.push [] }).value, ⟨home⟩ :: outer,
        some ⟨a.groups.size⟩⟩ (labels.map .radio)).value := rfl
  have hgroups : (a.grow home [.group ⟨a.groups.size⟩] [] [[label]]).groups =
      a.groups.push [label] := by
    simp [grow]
  rw [hfirst, hjoined, value_performAll_radio _ ⟨home⟩ outer a.groups label [] labels hgroups]
  simp [grow]

mutual

theorem value_performAll_events (a : Assembler) (home : Nat) (outer : List ContainerId)
    (hhome : home < a.containers.size) : (widget : Widget) → widget.GroupsFilled →
    (Scene.performAll renderer ⟨a, ⟨home⟩ :: outer, none⟩ widget.events).value =
      ⟨a.grow home [widget.slot a.containers.size a.groups.size]
        (widget.containers a.containers.size a.groups.size) widget.groupLabels,
        ⟨home⟩ :: outer, none⟩
  | .button _, _ | .label _, _ | .textField _, _ => by
      rw [Widget.slot, Widget.containers, Widget.groupLabels, ← value_addSlot hhome]
      rfl
  | .panel layout children, hfilled => by
      have hsize := size_grow a home [.panel ⟨a.containers.size⟩] [⟨layout, #[]⟩] []
      have hcontent := value_performAll_eventsAll
        (a.grow home [.panel ⟨a.containers.size⟩] [⟨layout, #[]⟩] []) a.containers.size
        (⟨home⟩ :: outer) (by rw [hsize.1]; exact Nat.lt_succ_self _) children hfilled
      rw [hsize.1, hsize.2, grow_last] at hcontent
      rw [Widget.events, Scene.performAll_append, Scene.performAll_append,
        value_performAll_openPanel hhome, hcontent]
      rfl
  | .radioGroup labels, hfilled => by
      obtain ⟨label, labels, rfl⟩ := List.exists_cons_of_ne_nil hfilled
      rw [Widget.events, Scene.performAll_append, value_performAll_group hhome]
      rfl

theorem value_performAll_eventsAll (a : Assembler) (home : Nat) (outer : List ContainerId)
    (hhome : home < a.containers.size) : (widgets : List Widget) →
    Widget.GroupsFilledAll widgets →
    (Scene.performAll renderer ⟨a, ⟨home⟩ :: outer, none⟩ (Widget.eventsAll widgets)).value =
      ⟨a.grow home (Widget.slots a.containers.size a.groups.size widgets)
        (Widget.containersAll a.containers.size a.groups.size widgets)
        (Widget.groupLabelsAll widgets), ⟨home⟩ :: outer, none⟩
  | [], _ => by
      rw [Widget.slots, Widget.containersAll, Widget.groupLabelsAll, grow_nil]
      rfl
  | widget :: rest, hfilled => by
      have hsize := size_grow a home [widget.slot a.containers.size a.groups.size]
        (widget.containers a.containers.size a.groups.size) widget.groupLabels
      rw [Widget.length_containers, Widget.length_groupLabels] at hsize
      have hrest := value_performAll_eventsAll
        (a.grow home [widget.slot a.containers.size a.groups.size]
          (widget.containers a.containers.size a.groups.size) widget.groupLabels) home outer
        (by rw [hsize.1]; omega) rest hfilled.2
      rw [hsize.1, hsize.2, grow_grow hhome] at hrest
      rw [Widget.eventsAll, Scene.performAll_append,
        value_performAll_events a home outer hhome widget hfilled.1, hrest]
      rfl

end

end Perform

-- What a slot of the given container stands for.
def slotWidget (a : Assembler) (index : Nat) : Slot → Widget
  | .widget widget => widget
  | .panel id =>
      if index < id.index ∧ id.index < a.containers.size then
        .panel (a.assemble id.index).1 (a.assemble id.index).2
      else .panel .flow []
  | .group id => .radioGroup (a.groups[id.index]?.getD [])

theorem assemble_of_getElem? {index : Nat} {box : Container}
    (h : a.containers[index]? = some box) :
    a.assemble index = (box.layout, box.slots.toList.map (a.slotWidget index)) := by
  rw [assemble_eq, h]
  simp only [Prod.mk.injEq, true_and]
  apply List.map_congr_left
  intro slot _
  cases slot <;> rfl

-- The containers and groups that were numbered from `made` and `begun` on.
structure Holds (a : Assembler) (made begun : Nat) (containers : List Container)
    (groups : List (List String)) : Prop where
  containers : containers <+: a.containers.toList.drop made
  groups : groups <+: a.groups.toList.drop begun

theorem prefix_drop_of_append {α : Type} {xs ys all : List α} {count : Nat}
    (h : xs ++ ys <+: all.drop count) : ys <+: all.drop (count + xs.length) := by
  obtain ⟨rest, hrest⟩ := h
  refine ⟨rest, ?_⟩
  rw [← List.drop_drop, ← hrest, List.append_assoc, List.drop_left]

theorem getElem?_of_prefix_drop {α : Type} {x : α} {xs : List α} {all : Array α} {count : Nat}
    (h : x :: xs <+: all.toList.drop count) : all[count]? = some x := by
  obtain ⟨rest, hrest⟩ := h
  have hfirst := congrArg (·[0]?) hrest
  simp only [List.cons_append, List.getElem?_cons_zero, List.getElem?_drop, Nat.add_zero,
    Array.getElem?_toList] at hfirst
  exact hfirst.symm

theorem Holds.left {made begun : Nat} {c c' : List Container} {g g' : List (List String)}
    (h : a.Holds made begun (c ++ c') (g ++ g')) : a.Holds made begun c g :=
  ⟨(List.prefix_append c c').trans h.containers, (List.prefix_append g g').trans h.groups⟩

theorem Holds.right {made begun : Nat} {c c' : List Container} {g g' : List (List String)}
    (h : a.Holds made begun (c ++ c') (g ++ g')) :
    a.Holds (made + c.length) (begun + g.length) c' g' :=
  ⟨prefix_drop_of_append h.containers, prefix_drop_of_append h.groups⟩

theorem Holds.tail {made begun : Nat} {box : Container} {c : List Container}
    {g : List (List String)} (h : a.Holds made begun (box :: c) g) :
    a.Holds (made + 1) begun c g := by
  have hsplit : [box] ++ c <+: a.containers.toList.drop made := h.containers
  exact ⟨prefix_drop_of_append hsplit, h.groups⟩

mutual

theorem slotWidget_slot {made begun index : Nat} (hindex : index < made) : (widget : Widget) →
    a.Holds made begun (widget.containers made begun) widget.groupLabels →
    a.slotWidget index (widget.slot made begun) = widget
  | .button _, _ | .label _, _ | .textField _, _ => rfl
  | .panel layout children, h => by
      have hbox := getElem?_of_prefix_drop h.containers
      have hmade := (Array.getElem?_eq_some_iff.mp hbox).1
      have hchildren := map_slotWidget_slots (Nat.lt_succ_self made) children h.tail
      rw [Widget.slot, slotWidget, if_pos ⟨hindex, hmade⟩, assemble_of_getElem? hbox, hchildren]
  | .radioGroup labels, h => by
      have hlabels := getElem?_of_prefix_drop h.groups
      rw [Widget.slot, slotWidget, hlabels]
      rfl

theorem map_slotWidget_slots {made begun index : Nat} (hindex : index < made) :
    (widgets : List Widget) →
    a.Holds made begun (Widget.containersAll made begun widgets)
      (Widget.groupLabelsAll widgets) →
    (Widget.slots made begun widgets).map (a.slotWidget index) = widgets
  | [], _ => rfl
  | widget :: rest, h => by
      have hfirst := slotWidget_slot hindex widget h.left
      have hlater := h.right
      rw [Widget.length_containers, Widget.length_groupLabels] at hlater
      have hlow : index < made + widget.panels := by omega
      have hrest := map_slotWidget_slots hlow rest hlater
      rw [Widget.slots, List.map_cons, hfirst, hrest]

end

-- Windows wait under the numbers of containers.
def PendingNumbered (a : Assembler) : Prop :=
  ∀ entry ∈ a.pending, entry.id.index < a.containers.size

theorem pendingNumbered_empty : PendingNumbered .empty := by
  simp [PendingNumbered, Assembler.empty]

theorem value_showWindow {entry : PendingWindow} {window : ContainerId}
    (h : a.pending.find? (·.id = window) = some entry) :
    (a.showWindow window).value =
      { a with
        pending := a.pending.eraseP (·.id = window)
        windows := a.windows.push ⟨entry.title, entry.width, entry.height,
          (a.assemble window.index).1, (a.assemble window.index).2⟩ } := by
  rw [showWindow, h]
  rfl

theorem value_showWindow_of_none {window : ContainerId}
    (h : a.pending.find? (·.id = window) = none) : (a.showWindow window).value = a := by
  rw [showWindow, h]
  rfl

-- A window that is created and given its layout.
theorem value_performAll_openWindow (a : Assembler) (title : String) (width height : Int32)
    (layout : Layout) :
    (Scene.performAll renderer (.start a) [.openWindow title width height, .layout layout]).value =
      ⟨{ a with
          containers := a.containers.push ⟨layout, #[]⟩
          pending := a.pending ++ [⟨⟨a.containers.size⟩, title, width, height⟩] },
        [⟨a.containers.size⟩], none⟩ := by
  have hcalls : (Scene.performAll renderer (.start a)
      [.openWindow title width height, .layout layout]).value =
      ⟨(renderer.setLayout ⟨a.containers.size⟩ layout
        { a with
          containers := a.containers.push .empty
          pending := a.pending ++ [⟨⟨a.containers.size⟩, title, width, height⟩] }).value,
        [⟨a.containers.size⟩], none⟩ := rfl
  rw [hcalls]
  simp [renderer, isContainer, update, modify_push_size, Container.empty]

-- Drawing a window shows it, and leaves all that was there before as it was.
theorem state_performAll_window (hpending : a.PendingNumbered) (w : Window)
    (hfilled : Widget.GroupsFilledAll w.children) :
    (Scene.performAll renderer (.start a) w.events).value.state =
      { a with
        containers :=
          a.containers.push
            ⟨w.layout, (Widget.slots (a.containers.size + 1) a.groups.size w.children).toArray⟩
          ++ (Widget.containersAll (a.containers.size + 1) a.groups.size w.children).toArray
        groups := a.groups ++ (Widget.groupLabelsAll w.children).toArray
        windows := a.windows.push w } := by
  let box : Container :=
    ⟨w.layout, (Widget.slots (a.containers.size + 1) a.groups.size w.children).toArray⟩
  let entry : PendingWindow := ⟨⟨a.containers.size⟩, w.title, w.width, w.height⟩
  let drawn : Assembler :=
    { a with
      containers := a.containers.push box
        ++ (Widget.containersAll (a.containers.size + 1) a.groups.size w.children).toArray
      groups := a.groups ++ (Widget.groupLabelsAll w.children).toArray
      pending := a.pending ++ [entry] }
  have hdrawn : (Scene.performAll renderer (.start a)
      ([.openWindow w.title w.width w.height, .layout w.layout]
        ++ Widget.eventsAll w.children)).value = ⟨drawn, [⟨a.containers.size⟩], none⟩ := by
    rw [Scene.performAll_append, value_performAll_openWindow, value_performAll_eventsAll _ _ _
      (by simp) _ hfilled]
    simp [grow, drawn, box, entry, modify_push_size]
  have hothers : ∀ other ∈ a.pending, ¬ other.id = ⟨a.containers.size⟩ := by
    intro other hother hid
    have hlt := hpending other hother
    rw [hid] at hlt
    exact Nat.lt_irrefl _ hlt
  have hfind : drawn.pending.find? (·.id = ⟨a.containers.size⟩) = some entry := by
    have hnone : a.pending.find? (·.id = ⟨a.containers.size⟩) = none := by
      simpa [List.find?_eq_none] using hothers
    simp [drawn, entry, List.find?_append, hnone]
  have herase : drawn.pending.eraseP (·.id = ⟨a.containers.size⟩) = a.pending := by
    rw [List.eraseP_append_right _ (by simpa using hothers)]
    simp [entry]
  have hbox : drawn.containers[a.containers.size]? = some box := by
    simp [drawn]
  have hholds : drawn.Holds (a.containers.size + 1) a.groups.size
      (Widget.containersAll (a.containers.size + 1) a.groups.size w.children)
      (Widget.groupLabelsAll w.children) := by
    constructor
    · simp [drawn, ← Array.length_toList]
    · simp [drawn, ← Array.length_toList]
  have hassemble : drawn.assemble a.containers.size = (w.layout, w.children) := by
    rw [assemble_of_getElem? hbox]
    simp only [box]
    rw [map_slotWidget_slots (Nat.lt_succ_self _) _ hholds]
  have hclosing : (Scene.performAll renderer ⟨drawn, [⟨a.containers.size⟩], none⟩
      [.showWindow]).value.state = (drawn.showWindow ⟨a.containers.size⟩).value := rfl
  rw [Window.events, Scene.performAll_append, hdrawn, hclosing, value_showWindow hfind, herase,
    hassemble]

end Assembler

end WindowDoc
