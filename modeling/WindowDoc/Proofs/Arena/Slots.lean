import WindowDoc.Proofs.Assembly

namespace WindowDoc.Assembler

-- The windows under construction after a request, whatever was answered and noted.
def after (a : Assembler) (request : Request ContainerId GroupId) : Assembler :=
  (renderer.perform request a).value.2

def afterAll (a : Assembler) (requests : List (Request ContainerId GroupId)) : Assembler :=
  (renderer.performAll requests a).value

variable (a : Assembler)

theorem afterAll_append (requests more : List (Request ContainerId GroupId)) :
    a.afterAll (requests ++ more) = (a.afterAll requests).afterAll more :=
  renderer.value_performAll_append requests more a

-- What every request keeps, a run keeps.
theorem afterAll_induction {P : Assembler → Prop} (hstep : ∀ {a} request, P a → P (a.after request))
    {a : Assembler} (h : P a) (requests : List (Request ContainerId GroupId)) :
    P (a.afterAll requests) := by
  induction requests generalizing a with
  | nil => exact h
  | cons request requests ih => exact ih (hstep request h)

-- What is at one place of a container.
def slot? (home : ContainerId) (place : Nat) : Option Slot :=
  a.containers[home.index]?.bind (·.slots[place]?)

-- How many places of a container are taken.
def width (home : ContainerId) : Nat := (a.containers[home.index]?.elim 0 (·.slots.size))

-- A panel stands in a container.
def Encloses (home panel : ContainerId) : Prop := ∃ place, a.slot? home place = some (.panel panel)

variable {a}

theorem slot?_eq_some_iff {home : ContainerId} {place : Nat} {slot : Slot} :
    a.slot? home place = some slot ↔
      ∃ box, a.containers[home.index]? = some box ∧ box.slots[place]? = some slot :=
  Option.bind_eq_some_iff

theorem slot?_congr {b : Assembler} (h : b.containers = a.containers) : b.slot? = a.slot? := by
  unfold slot?
  rw [h]

-- A new container is empty.
theorem getElem?_addContainer (index : Nat) :
    a.addContainer.2.containers[index]? = a.containers[index]? ∨
      a.containers[index]? = none ∧ a.addContainer.2.containers[index]? = some .empty := by
  rw [addContainer, Array.getElem?_push]
  split
  · rename_i hlast
    exact .inr ⟨by rw [hlast, Array.getElem?_eq_none (Nat.le_refl _)], rfl⟩
  · exact .inl rfl

theorem getElem?_addContainer_of_lt {index : Nat} (h : index < a.containers.size) :
    a.addContainer.2.containers[index]? = a.containers[index]? := by
  rw [addContainer, Array.getElem?_push, if_neg (Nat.ne_of_lt h)]

theorem slot?_addContainer (home : ContainerId) (place : Nat) :
    a.addContainer.2.slot? home place = a.slot? home place := by
  obtain hsame | ⟨hnone, hnew⟩ := a.getElem?_addContainer home.index
  · rw [slot?, slot?, hsame]
  · rw [slot?, slot?, hnone, hnew]
    rfl

theorem width_addContainer (home : ContainerId) : a.addContainer.2.width home = a.width home := by
  obtain hsame | ⟨hnone, hnew⟩ := a.getElem?_addContainer home.index
  · rw [width, width, hsame]
  · rw [width, width, hnone, hnew]
    rfl

theorem slot?_update_layout (id : ContainerId) (layout : Layout) (home : ContainerId)
    (place : Nat) :
    (a.update id fun box => { box with layout }).slot? home place = a.slot? home place := by
  rw [slot?, slot?, update, Array.getElem?_modify]
  split
  · cases a.containers[home.index]? <;> rfl
  · rfl

-- A container takes a slot at the first free place.
theorem slot?_push_iff {id home : ContainerId} {place : Nat} {new slot : Slot} :
    (a.update id (·.push new)).slot? home place = some slot ↔
      a.slot? home place = some slot ∨
        home = id ∧ home.index < a.containers.size ∧ place = a.width home ∧ slot = new := by
  by_cases hid : home = id
  · subst hid
    rw [slot?, slot?, update, width, Array.getElem?_modify, if_pos rfl]
    cases hbox : a.containers[home.index]? with
    | none =>
        have hsize := Array.getElem?_eq_none_iff.mp hbox
        simp [Nat.not_lt_of_le hsize]
    | some box =>
        have hmade := (Array.getElem?_eq_some_iff.mp hbox).1
        simp only [Option.map_some, Option.bind_some, Container.push, Array.getElem?_push, hmade,
          Option.elim_some, true_and]
        split
        · rename_i hlast
          simp [hlast, eq_comm]
        · rename_i hlast
          simp [hlast]
  · have hindex : id.index ≠ home.index := fun h => hid (congrArg ContainerId.mk h.symm)
    rw [slot?, slot?, update, Array.getElem?_modify, if_neg hindex]
    simp [hid]

-- Nothing comes of a container that was never made.

theorem update_of_le {id : ContainerId} (h : a.containers.size ≤ id.index)
    (change : Container → Container) : a.update id change = a := by
  have hcontainers : a.containers.modify id.index change = a.containers := by
    apply Array.ext
    · simp
    · intro i _ hi
      have hne : id.index ≠ i := by omega
      rw [Array.getElem_modify, if_neg hne]
  rw [update, hcontainers]

theorem value_addSlot_eq (id : ContainerId) (slot : Slot) :
    (a.addSlot id slot).value = a.update id (·.push slot) := by
  rw [addSlot]
  split
  · rfl
  · rename_i hnone
    rw [update_of_le (by simpa [isContainer] using hnone)]
    rfl

-- What each request does.

theorem after_setLayout (id : ContainerId) (layout : Layout) :
    a.after (.setLayout id layout) = a.update id fun box => { box with layout } := by
  have hafter : a.after (.setLayout id layout) = (renderer.setLayout id layout a).value := rfl
  simp only [hafter, renderer]
  split
  · rfl
  · rename_i hnone
    rw [update_of_le (by simpa [isContainer] using hnone)]
    rfl

theorem after_beginPanel (parent : ContainerId) :
    a.after (.beginPanel parent) =
      a.addContainer.2.update parent (·.push (.panel ⟨a.containers.size⟩)) :=
  value_addSlot_eq parent _

theorem value_addRadioButton {mark : GroupId} {id : ContainerId} {labels : List String}
    (hlabels : a.groups[mark.index]? = some labels)
    (hmade : id.index < a.containers.size) (label : String) :
    (a.addRadioButton mark id label).value =
      if labels = [] then
        ({ a with groups := a.groups.modify mark.index (· ++ [label]) } : Assembler).update id
          (·.push (.group mark))
      else { a with groups := a.groups.modify mark.index (· ++ [label]) } := by
  rw [addRadioButton, hlabels]
  cases labels with
  | nil => simp [isContainer, hmade]
  | cons => rfl

-- A radio button joins a group that has one, or brings the group into a container, or comes to
-- nothing.
theorem after_addRadioButton (group : GroupId) (id : ContainerId) (label : String) :
    a.after (.addRadioButton group id label) = a ∨
      (∃ labels, a.groups[group.index]? = some labels ∧ labels ≠ [] ∧
        a.after (.addRadioButton group id label) =
          { a with groups := a.groups.modify group.index (· ++ [label]) }) ∨
      a.groups[group.index]? = some [] ∧ id.index < a.containers.size ∧
        a.after (.addRadioButton group id label) =
          ({ a with groups := a.groups.modify group.index (· ++ [label]) } : Assembler).update id
            (·.push (.group group)) := by
  have hafter : a.after (.addRadioButton group id label) =
      (a.addRadioButton group id label).value := rfl
  rw [hafter, addRadioButton]
  cases hlabels : a.groups[group.index]? with
  | none => exact .inl rfl
  | some labels =>
      cases labels with
      | nil =>
          by_cases hmade : a.isContainer id = true
          · exact .inr (.inr ⟨rfl, by simpa [isContainer] using hmade, by simp [hmade]⟩)
          · left
            simp only [hmade]
            rfl
      | cons first others => exact .inr (.inl ⟨first :: others, rfl, by simp, rfl⟩)

-- A window is shown if it is pending, and what there is under construction stays.
theorem after_showWindow (window : ContainerId) :
    a.after (.showWindow window) = a ∧ (∀ entry ∈ a.pending, entry.id ≠ window) ∨
      ∃ entry ∈ a.pending, entry.id = window ∧
        a.after (.showWindow window) = { a with
          pending := a.pending.eraseP (·.id = window)
          windows := a.windows.push ⟨entry.title, entry.width, entry.height,
            (a.assemble window.index).1, (a.assemble window.index).2⟩ } := by
  have hafter : a.after (.showWindow window) = (a.showWindow window).value := rfl
  cases hfind : a.pending.find? (·.id = window) with
  | none =>
      exact .inl ⟨hafter.trans (value_showWindow_of_none hfind), by simpa using hfind⟩
  | some entry =>
      have hid := List.find?_some hfind
      exact .inr ⟨entry, List.mem_of_find?_eq_some hfind, by simpa using hid,
        hafter.trans (value_showWindow hfind)⟩

theorem containers_after_showWindow (window : ContainerId) :
    (a.after (.showWindow window)).containers = a.containers := by
  obtain ⟨hafter, -⟩ | ⟨entry, -, -, hafter⟩ := a.after_showWindow window
  · rw [hafter]
  · rw [hafter]

-- What the requests that neither make a container nor show a window leave as it is.
structure Change (a b : Assembler) : Prop where
  size_eq : b.containers.size = a.containers.size
  panel_iff : ∀ {home panel place},
    b.slot? home place = some (.panel panel) ↔ a.slot? home place = some (.panel panel)
  pending_eq : b.pending = a.pending
  windows_eq : b.windows = a.windows

namespace Change

variable {b c : Assembler}

theorem regroup (groups : Array (List String)) : Change a { a with groups } :=
  ⟨rfl, Iff.rfl, rfl, rfl⟩

theorem trans (h : Change a b) (h' : Change b c) : Change a c :=
  ⟨h'.size_eq.trans h.size_eq, h'.panel_iff.trans h.panel_iff, h'.pending_eq.trans h.pending_eq,
    h'.windows_eq.trans h.windows_eq⟩

theorem push (id : ContainerId) {slot : Slot} (hslot : ∀ panel, slot ≠ .panel panel) :
    Change a (a.update id (·.push slot)) := by
  refine ⟨Array.size_modify, ?_, rfl, rfl⟩
  intro home panel place
  rw [slot?_push_iff]
  simp [(hslot panel).symm]

theorem addWidget (id : ContainerId) (widget : Widget) :
    Change a (a.addSlot id (.widget widget)).value := by
  rw [value_addSlot_eq]
  exact .push id (by simp)

theorem layout (id : ContainerId) (layout : Layout) :
    Change a (a.update id fun box => { box with layout }) := by
  refine ⟨Array.size_modify, ?_, rfl, rfl⟩
  intro home panel place
  rw [slot?_update_layout]

end Change

theorem change_after {request : Request ContainerId GroupId}
    (hwindow : ∀ title width height, request ≠ .createWindow title width height)
    (hpanel : ∀ parent, request ≠ .beginPanel parent)
    (hshow : ∀ window, request ≠ .showWindow window) : Change a (a.after request) := by
  cases request with
  | createWindow title width height => exact absurd rfl (hwindow title width height)
  | setLayout id layout =>
      rw [after_setLayout]
      exact .layout id layout
  | addButton id label => exact .addWidget id (.button label)
  | addLabel id text => exact .addWidget id (.label text)
  | addTextField id columns => exact .addWidget id (.textField columns)
  | beginPanel parent => exact absurd rfl (hpanel parent)
  | beginRadioGroup => exact .regroup _
  | addRadioButton group id label =>
      obtain hafter | ⟨labels, -, -, hafter⟩ | ⟨-, -, hafter⟩ :=
        a.after_addRadioButton group id label
      · rw [hafter]
        exact .regroup a.groups
      · rw [hafter]
        exact .regroup _
      · rw [hafter]
        exact (Change.regroup _).trans (.push id (by simp))
  | showWindow window => exact absurd rfl (hshow window)

-- What a request does to the panels in their places: only beginning a panel puts one anywhere,
-- and it may put it into itself.
theorem panel_after_iff {request : Request ContainerId GroupId} {home panel : ContainerId}
    {place : Nat} :
    (a.after request).slot? home place = some (.panel panel) ↔
      a.slot? home place = some (.panel panel) ∨
        request = .beginPanel home ∧ home.index ≤ a.containers.size ∧ place = a.width home ∧
          panel = ⟨a.containers.size⟩ := by
  cases request with
  | createWindow title width height =>
      have hslot : (a.after (.createWindow title width height)).slot? = a.addContainer.2.slot? :=
        slot?_congr rfl
      simp [hslot, slot?_addContainer]
  | beginPanel parent =>
      have hsize : a.addContainer.2.containers.size = a.containers.size + 1 := Array.size_push ..
      rw [after_beginPanel, slot?_push_iff, slot?_addContainer, width_addContainer, hsize,
        Nat.lt_succ_iff]
      simp [eq_comm]
  | showWindow window =>
      rw [slot?_congr (a.containers_after_showWindow window)]
      simp
  | _ =>
      rw [(change_after (by simp) (by simp) (by simp)).panel_iff]
      simp

theorem size_after_createWindow (title : String) (width height : Int32) :
    (a.after (.createWindow title width height)).containers.size = a.containers.size + 1 :=
  Array.size_push ..

theorem size_after_beginPanel (parent : ContainerId) :
    (a.after (.beginPanel parent)).containers.size = a.containers.size + 1 := by
  rw [after_beginPanel, update, Array.size_modify]
  exact Array.size_push ..

theorem size_le_size_after (request : Request ContainerId GroupId) :
    a.containers.size ≤ (a.after request).containers.size := by
  cases request with
  | createWindow title width height =>
      rw [size_after_createWindow]
      exact Nat.le_succ _
  | beginPanel parent =>
      rw [size_after_beginPanel]
      exact Nat.le_succ _
  | showWindow window => exact Nat.le_of_eq (by rw [containers_after_showWindow])
  | _ => exact Nat.le_of_eq (change_after (by simp) (by simp) (by simp)).size_eq.symm

theorem groups_after {request : Request ContainerId GroupId} (hbegin : request ≠ .beginRadioGroup)
    (hradio : ∀ mark home label, request ≠ .addRadioButton mark home label) :
    (a.after request).groups = a.groups := by
  cases request with
  | createWindow title width height => rfl
  | setLayout id layout => exact congrArg (·.groups) (after_setLayout id layout)
  | addButton id label => exact congrArg (·.groups) (value_addSlot_eq id _)
  | addLabel id text => exact congrArg (·.groups) (value_addSlot_eq id _)
  | addTextField id columns => exact congrArg (·.groups) (value_addSlot_eq id _)
  | beginPanel parent => exact congrArg (·.groups) (after_beginPanel parent)
  | beginRadioGroup => exact absurd rfl hbegin
  | addRadioButton mark home label => exact absurd rfl (hradio mark home label)
  | showWindow window =>
      obtain ⟨hafter, -⟩ | ⟨entry, -, -, hafter⟩ := a.after_showWindow window
      · rw [hafter]
      · rw [hafter]

theorem groups_size_after {request : Request ContainerId GroupId}
    (h : request ≠ .beginRadioGroup) : (a.after request).groups.size = a.groups.size := by
  cases request with
  | addRadioButton group id label =>
      obtain hafter | ⟨labels, -, -, hafter⟩ | ⟨-, -, hafter⟩ :=
        a.after_addRadioButton group id label
      · rw [hafter]
      · rw [hafter]
        exact Array.size_modify
      · rw [hafter]
        exact Array.size_modify
  | beginRadioGroup => exact absurd rfl h
  | _ => rw [groups_after (by simp) (by simp)]

theorem groups_size_after_beginRadioGroup :
    (a.after .beginRadioGroup).groups.size = a.groups.size + 1 :=
  Array.size_push ..

theorem groups_size_le_size_after (request : Request ContainerId GroupId) :
    a.groups.size ≤ (a.after request).groups.size := by
  by_cases hgroup : request = .beginRadioGroup
  · rw [hgroup, groups_size_after_beginRadioGroup]
    exact Nat.le_succ _
  · exact Nat.le_of_eq (groups_size_after hgroup).symm

-- The handles of the windows that wait to be shown.
def pendingIds (a : Assembler) : List ContainerId := a.pending.map PendingWindow.id

theorem notMem_pendingIds {window : ContainerId} (h : ∀ entry ∈ a.pending, entry.id ≠ window) :
    window ∉ a.pendingIds := by
  intro hwaiting
  obtain ⟨entry, hentry, hid⟩ := List.mem_map.mp hwaiting
  exact h entry hentry hid

-- A window that is created waits, and otherwise no window begins to wait.
theorem pendingIds_after (request : Request ContainerId GroupId) :
    (∃ title width height, request = .createWindow title width height) ∧
        (a.after request).pendingIds = a.pendingIds ++ [⟨a.containers.size⟩] ∨
      (a.after request).pendingIds.Sublist a.pendingIds := by
  cases request with
  | createWindow title width height => exact .inl ⟨⟨title, width, height, rfl⟩, List.map_append⟩
  | beginPanel parent =>
      rw [after_beginPanel]
      exact .inr (.refl _)
  | showWindow window =>
      obtain ⟨hafter, -⟩ | ⟨entry, -, -, hafter⟩ := a.after_showWindow window
      · rw [hafter]
        exact .inr (.refl _)
      · rw [hafter]
        exact .inr (List.eraseP_sublist.map _)
  | _ =>
      right
      rw [pendingIds, (change_after (by simp) (by simp) (by simp)).pending_eq]
      exact .refl _

end WindowDoc.Assembler
