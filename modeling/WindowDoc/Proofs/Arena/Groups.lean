import WindowDoc.Proofs.Arena.ForeignHandles
import WindowDoc.Proofs.Arena.Heeded
import Mathlib.Data.List.Perm.Subperm

namespace WindowDoc.Assembler

-- A radio button that its group has taken, with the place that was the first free one of the
-- container which the button names.
structure Button where
  home : ContainerId
  place : Nat
  label : String

-- The button that a request adds to a group in the state that it meets, if it is heeded.
def button? (mark : GroupId) (met : Assembler × Request ContainerId GroupId) : Option Button :=
  match met.2 with
  | .addRadioButton other home label =>
      if other = mark then some ⟨home, met.1.width home, label⟩ else none
  | _ => none

-- The buttons that a group has taken in the course of a run, in order.
def buttons (requests : List (Request ContainerId GroupId)) (mark : GroupId) : List Button :=
  (renderer.heeded requests empty).filterMap (button? mark)

-- What one request brings to a group.
def arrivals (a : Assembler) (request : Request ContainerId GroupId) (mark : GroupId) :
    List Button :=
  (renderer.heeded [request] a).filterMap (button? mark)

variable {a : Assembler} {request : Request ContainerId GroupId} {mark : GroupId}
  {home : ContainerId} {place : Nat}

theorem buttons_concat (requests : List (Request ContainerId GroupId)) :
    buttons (requests ++ [request]) =
      fun mark => buttons requests mark ++ (run requests).arrivals request mark := by
  funext mark
  rw [buttons, renderer.heeded_append, List.filterMap_append]
  rfl

theorem arrivals_cases (a : Assembler) (request : Request ContainerId GroupId) (mark : GroupId) :
    (∃ home label, request = .addRadioButton mark home label ∧ a.Heeds request ∧
        a.arrivals request mark = [⟨home, a.width home, label⟩]) ∨
      (∀ home label, request = .addRadioButton mark home label → ¬ a.Heeds request) ∧
        a.arrivals request mark = [] := by
  by_cases hheeds : a.Heeds request
  · rw [arrivals, heeded_of_heeds hheeds]
    cases request with
    | addRadioButton other home label =>
        by_cases hmark : other = mark
        · subst hmark
          exact .inl ⟨home, label, rfl, hheeds, by simp [button?]⟩
        · exact .inr ⟨by simp [hmark], by simp [button?, hmark]⟩
    | _ => exact .inr ⟨nofun, rfl⟩
  · exact .inr ⟨fun _ _ _ => hheeds, by rw [arrivals, heeded_of_not_heeds hheeds]; rfl⟩

theorem groups_after_of_heeds {label : String} (h : a.Heeds (.addRadioButton mark home label)) :
    (a.after (.addRadioButton mark home label)).groups =
      a.groups.modify mark.index (· ++ [label]) := by
  obtain ⟨labels, hlabels, hmade⟩ := h
  have hafter : a.after (.addRadioButton mark home label) =
      (a.addRadioButton mark home label).value := rfl
  rw [hafter, addRadioButton, hlabels]
  cases labels with
  | nil => simp [isContainer, hmade rfl, update]
  | cons first others => rfl

theorem after_addRadioButton_of_not_heeds {label : String}
    (h : ¬ a.Heeds (.addRadioButton mark home label)) :
    a.after (.addRadioButton mark home label) = a := by
  obtain hsame | ⟨labels, hlabels, hfilled, -⟩ | ⟨hlabels, hmade, -⟩ :=
    a.after_addRadioButton mark home label
  · exact hsame
  · exact absurd ⟨labels, hlabels, fun hnil => absurd hnil hfilled⟩ h
  · exact absurd ⟨[], hlabels, fun _ => hmade⟩ h

-- The labels of a group grow by those of the buttons that it takes.
theorem labels_after (request : Request ContainerId GroupId) (mark : GroupId) :
    (a.after request).groups[mark.index]?.getD [] =
      a.groups[mark.index]?.getD [] ++ (a.arrivals request mark).map Button.label := by
  obtain ⟨home, label, rfl, hheeds, harrivals⟩ | ⟨hignored, harrivals⟩ :=
    a.arrivals_cases request mark
  · obtain ⟨labels, hlabels, -⟩ := id hheeds
    rw [harrivals, groups_after_of_heeds hheeds, Array.getElem?_modify, if_pos rfl, hlabels]
    rfl
  · rw [harrivals, List.map_nil, List.append_nil]
    cases request with
    | beginRadioGroup =>
        have hgroups : (a.after .beginRadioGroup).groups = a.groups.push [] := rfl
        rw [hgroups, Array.getElem?_push]
        split
        · rename_i hlast
          rw [hlast, Array.getElem?_eq_none (Nat.le_refl _)]
          rfl
        · rfl
    | addRadioButton other home label =>
        by_cases hheeds : a.Heeds (.addRadioButton other home label)
        · have hne : other.index ≠ mark.index := by
            intro hindex
            obtain rfl : other = mark := congrArg GroupId.mk hindex
            exact hignored home label rfl hheeds
          rw [groups_after_of_heeds hheeds, Array.getElem?_modify, if_neg hne]
        · rw [after_addRadioButton_of_not_heeds hheeds]
    | _ => rw [groups_after (by simp) (by simp)]

-- A group without a button takes its place where the first one goes.
theorem adds_group_iff (hempty : a.groups[mark.index]?.getD [] = []) :
    a.Adds request home (.group mark) ∧ place = a.width home ↔
      ∃ label, (a.arrivals request mark).head? = some ⟨home, place, label⟩ := by
  obtain ⟨home', label, rfl, hheeds, harrivals⟩ | ⟨hignored, harrivals⟩ :=
    a.arrivals_cases request mark
  · obtain ⟨labels, hsome, hmade⟩ := hheeds
    obtain rfl : labels = [] := by simpa [hsome] using hempty
    rw [harrivals]
    constructor
    · rintro ⟨hadds, rfl⟩
      cases hadds with
      | group => exact ⟨label, rfl⟩
    · rintro ⟨label', hfirst⟩
      cases hfirst
      exact ⟨.group hsome (hmade rfl), rfl⟩
  · rw [harrivals]
    constructor
    · rintro ⟨hadds, -⟩
      cases hadds with
      | group hnone hmade => exact absurd ⟨[], hnone, fun _ => hmade⟩ (hignored _ _ rfl)
    · rintro ⟨label, hfirst⟩
      cases hfirst

-- The groups in their places, by the buttons that they have taken.
structure Placed (a : Assembler) (buttons : GroupId → List Button) : Prop where
  labels : ∀ mark, a.groups[mark.index]?.getD [] = (buttons mark).map Button.label
  slot_iff : ∀ {mark home place}, a.slot? home place = some (.group mark) ↔
    ∃ label, (buttons mark).head? = some ⟨home, place, label⟩

namespace Placed

variable {buttons : GroupId → List Button}

theorem empty : Placed empty fun _ => [] := by
  refine ⟨fun mark => rfl, fun {mark home place} => ?_⟩
  have hnone : slot? .empty home place = none := rfl
  simp [hnone]

-- Only the first button of a group brings a slot with it.
theorem after (h : Placed a buttons) (request : Request ContainerId GroupId) :
    Placed (a.after request) fun mark => buttons mark ++ a.arrivals request mark := by
  refine ⟨fun mark => ?_, fun {mark home place} => ?_⟩
  · rw [labels_after, h.labels, List.map_append]
  · rw [slot?_after_iff, h.slot_iff]
    have hlabels := h.labels mark
    cases hbuttons : buttons mark with
    | cons first others =>
        -- a group with a button has its place already
        rw [hbuttons] at hlabels
        refine or_iff_left ?_
        rintro ⟨hadds, -⟩
        cases hadds with
        | group hnone _ => simp [hnone] at hlabels
    | nil =>
        rw [hbuttons, List.map_nil] at hlabels
        rw [adds_group_iff hlabels]
        simp

end Placed

theorem placed_run (requests : List (Request ContainerId GroupId)) :
    Placed (run requests) (buttons requests) := by
  induction requests using List.reverseRecOn with
  | nil => exact .empty
  | append_singleton requests request ih =>
      rw [run_concat, buttons_concat]
      exact ih.after request

-- What slots stand for where nothing that they refer to is missing, with the groups that come up
-- in them and in their panels.
inductive Composes (a : Assembler) : List Slot → List GroupId → List Widget → Prop where
  | nil : Composes a [] [] []
  | widget {widget rest marks widgets} : Composes a rest marks widgets →
      Composes a (.widget widget :: rest) marks (widget :: widgets)
  | group {mark labels rest marks widgets} : a.groups[mark.index]? = some labels →
      Composes a rest marks widgets →
      Composes a (.group mark :: rest) (mark :: marks) (.radioGroup labels :: widgets)
  | panel {id box inside children rest marks widgets} : a.containers[id.index]? = some box →
      Composes a box.slots.toList inside children → Composes a rest marks widgets →
      Composes a (.panel id :: rest) (inside ++ marks) (.panel box.layout children :: widgets)

-- A window as it is made from its container, with the groups that come up in it.
structure Exposes (a : Assembler) (id : ContainerId) (exposure : Window × List GroupId) : Prop where
  assembled : a.assemble id.index = (exposure.1.layout, exposure.1.children)
  composed : ∃ box, a.containers[id.index]? = some box ∧
    Composes a box.slots.toList exposure.2 exposure.1.children

def shown? : Assembler × Request ContainerId GroupId → Option (Assembler × ContainerId)
  | (met, .showWindow window) => some (met, window)
  | _ => none

-- The requests that show a window, each with the state that it meets.
def shows (a : Assembler) (requests : List (Request ContainerId GroupId)) :
    List (Assembler × ContainerId) :=
  (renderer.heeded requests a).filterMap shown?

def mark? : Slot → Option GroupId
  | .group mark => some mark
  | _ => none

-- The groups in the slots of a container.
def marksIn (a : Assembler) (home : ContainerId) : List GroupId :=
  (a.containers[home.index]?.elim [] (·.slots.toList)).filterMap mark?

theorem mark?_eq_some_iff {slot : Slot} : mark? slot = some mark ↔ slot = .group mark := by
  cases slot <;> simp [mark?]

theorem marksIn_of_getElem? {box : Container} (hbox : a.containers[home.index]? = some box) :
    a.marksIn home = box.slots.toList.filterMap mark? := by
  rw [marksIn, hbox]
  rfl

theorem mem_marksIn : mark ∈ a.marksIn home ↔ ∃ place, a.slot? home place = some (.group mark) := by
  cases hbox : a.containers[home.index]? with
  | none => simp [marksIn, slot?, hbox]
  | some box =>
      rw [marksIn_of_getElem? hbox, List.mem_filterMap]
      simp [mark?_eq_some_iff, slot?, hbox, Array.mem_iff_getElem?]

namespace Placed

variable {buttons : GroupId → List Button}

theorem eq_of_slot? (h : Placed a buttons) {home' : ContainerId} {place' : Nat}
    (hslot : a.slot? home place = some (.group mark))
    (hslot' : a.slot? home' place' = some (.group mark)) : home = home' ∧ place = place' := by
  obtain ⟨label, hfirst⟩ := h.slot_iff.mp hslot
  obtain ⟨label', hfirst'⟩ := h.slot_iff.mp hslot'
  rw [hfirst] at hfirst'
  cases hfirst'
  exact ⟨rfl, rfl⟩

theorem nodup_marksIn (h : Placed a buttons) (home : ContainerId) : (a.marksIn home).Nodup := by
  cases hbox : a.containers[home.index]? with
  | none => simp [marksIn, hbox]
  | some box =>
      have hslot {place : Nat} (hplace : place < box.slots.toList.length) {mark : GroupId}
          (hmark : mark? box.slots.toList[place] = some mark) :
          a.slot? home place = some (.group mark) := by
        refine slot?_eq_some_iff.mpr ⟨box, hbox, ?_⟩
        rw [← Array.getElem?_toList, List.getElem?_eq_getElem hplace, mark?_eq_some_iff.mp hmark]
      rw [marksIn_of_getElem? hbox]
      refine List.pairwise_filterMap.mpr (List.pairwise_iff_getElem.mpr ?_)
      intro first second hfirst hsecond hlt mark hmark mark' hmark'
      rintro rfl
      exact Nat.ne_of_lt hlt (h.eq_of_slot? (hslot hfirst hmark) (hslot hsecond hmark')).2

theorem nodup_flatMap_marksIn (h : Placed a buttons) {visited : List ContainerId}
    (hnodup : visited.Nodup) : (visited.flatMap a.marksIn).Nodup := by
  refine List.nodup_flatMap.mpr ⟨fun home _ => h.nodup_marksIn home, hnodup.imp ?_⟩
  rintro home home' hne mark hmark hmark'
  obtain ⟨place, hslot⟩ := mem_marksIn.mp hmark
  obtain ⟨place', hslot'⟩ := mem_marksIn.mp hmark'
  exact hne (h.eq_of_slot? hslot hslot').1

end Placed

-- What a slot refers to is there, and groups have buttons.
def Resolves (a : Assembler) : Slot → Prop
  | .widget widget => widget.GroupsFilled
  | .panel id => id.index < a.containers.size
  | .group mark => ∃ labels, a.groups[mark.index]? = some labels ∧ labels ≠ []

theorem groupsFilled_of_slot? (requests : List (Request ContainerId GroupId)) {widget : Widget}
    (h : (run requests).slot? home place = some (.widget widget)) : widget.GroupsFilled := by
  induction requests using List.reverseRecOn with
  | nil => cases h
  | append_singleton requests request ih =>
      rw [run_concat, slot?_after_iff] at h
      obtain hold | ⟨hadds, -⟩ := h
      · exact ih hold
      · cases hadds with
        | widget hadded _ =>
            cases request <;> cases hadded <;> trivial

-- No slot is left without what it refers to, since a group takes its place with a button only.
theorem resolves_of_slot? (requests : List (Request ContainerId GroupId)) {slot : Slot}
    (h : (run requests).slot? home place = some slot) : (run requests).Resolves slot := by
  cases slot with
  | widget widget => exact groupsFilled_of_slot? requests h
  | panel id => exact (sound_run requests).inRange h
  | group mark =>
      have hplaced := placed_run requests
      obtain ⟨label, hfirst⟩ := hplaced.slot_iff.mp h
      obtain ⟨others, hbuttons⟩ := List.head?_eq_some_iff.mp hfirst
      have hlabels := hplaced.labels mark
      rw [hbuttons] at hlabels
      cases hsome : (run requests).groups[mark.index]? with
      | none => simp [hsome] at hlabels
      | some labels => exact ⟨labels, hsome, by simp_all⟩

theorem resolves_of_mem {requests : List (Request ContainerId GroupId)} {box : Container}
    {slot : Slot} (hbox : (run requests).containers[home.index]? = some box)
    (hslot : slot ∈ box.slots.toList) : (run requests).Resolves slot := by
  obtain ⟨place, hslot⟩ := List.mem_iff_getElem?.mp hslot
  rw [Array.getElem?_toList] at hslot
  exact resolves_of_slot? requests (slot?_eq_some_iff.mpr ⟨box, hbox, hslot⟩)

-- Unfolding never misses anything.
theorem Unfolds.exists_composes {requests : List (Request ContainerId GroupId)}
    {slots : List Slot} {visited : List ContainerId} {widgets : List Widget}
    (h : Unfolds (run requests) slots visited widgets)
    (hslots : ∀ slot ∈ slots, (run requests).Resolves slot) :
    ∃ marks, Composes (run requests) slots marks widgets ∧
      marks.Perm (slots.filterMap mark? ++ visited.flatMap (run requests).marksIn) ∧
      Widget.GroupsFilledAll widgets := by
  induction h with
  | nil => exact ⟨[], .nil, .refl _, trivial⟩
  | widget _ ih =>
      obtain ⟨hslot, hrest⟩ := List.forall_mem_cons.mp hslots
      obtain ⟨marks, hcomposes, hperm, hfilled⟩ := ih hrest
      exact ⟨marks, .widget hcomposes, hperm, hslot, hfilled⟩
  | @group mark _ _ _ _ ih =>
      obtain ⟨⟨labels, hlabels, hnonempty⟩, hrest⟩ := List.forall_mem_cons.mp hslots
      obtain ⟨marks, hcomposes, hperm, hfilled⟩ := ih hrest
      rw [hlabels]
      exact ⟨mark :: marks, .group hlabels hcomposes, hperm.cons mark, hnonempty, hfilled⟩
  | missing hnone _ _ =>
      -- nothing is missing
      have hmade := hslots _ List.mem_cons_self
      exact absurd hmade (Nat.not_lt_of_le (Array.getElem?_eq_none_iff.mp hnone))
  | @panel id box inside _ rest visited _ hbox _ _ ihinside ih =>
      obtain ⟨-, hrest⟩ := List.forall_mem_cons.mp hslots
      obtain ⟨below, hcomposes, hperm, hfilled⟩ := ihinside fun _ => resolves_of_mem hbox
      obtain ⟨marks, hcomposes', hperm', hfilled'⟩ := ih hrest
      refine ⟨below ++ marks, .panel hbox hcomposes hcomposes', ?_, hfilled, hfilled'⟩
      rw [← marksIn_of_getElem? hbox, ← List.flatMap_cons] at hperm
      rw [List.flatMap_append]
      exact (hperm.append hperm').trans (List.perm_append_comm_assoc _ _ _)

theorem slot?_afterAll {slot : Slot} (h : a.slot? home place = some slot)
    (requests : List (Request ContainerId GroupId)) :
    (a.afterAll requests).slot? home place = some slot :=
  afterAll_induction (P := fun a => a.slot? home place = some slot)
    (fun request h => (slot?_after_iff request).mpr (.inl h)) h requests

theorem marksIn_subset_afterAll (requests : List (Request ContainerId GroupId)) :
    a.marksIn home ⊆ (a.afterAll requests).marksIn home := by
  intro mark hmark
  obtain ⟨place, hslot⟩ := mem_marksIn.mp hmark
  exact mem_marksIn.mpr ⟨place, slot?_afterAll hslot requests⟩

-- A window is shown when it waits.
theorem windows_after_showWindow (window : ContainerId) :
    (a.Heeds (.showWindow window) ∧ ∃ shown : Window,
        a.assemble window.index = (shown.layout, shown.children) ∧
        (a.after (.showWindow window)).windows = a.windows.push shown) ∨
      ¬ a.Heeds (.showWindow window) ∧ (a.after (.showWindow window)).windows = a.windows := by
  obtain ⟨hafter, hnone⟩ | ⟨entry, hentry, hid, hafter⟩ := a.after_showWindow window
  · exact .inr ⟨notMem_pendingIds hnone, by rw [hafter]⟩
  · exact .inl ⟨List.mem_map.mpr ⟨entry, hentry, hid⟩, _, rfl, by rw [hafter]⟩

theorem shows_cons (request : Request ContainerId GroupId)
    (requests : List (Request ContainerId GroupId)) :
    a.shows (request :: requests) = a.shows [request] ++ (a.after request).shows requests := by
  have hheeded : renderer.heeded (request :: requests) a =
      renderer.heeded [request] a ++ renderer.heeded requests (a.after request) :=
    renderer.heeded_append [request] requests a
  rw [shows, hheeded, List.filterMap_append]
  rfl

-- A request either shows a window or leaves all that are shown.
theorem shows_of_windows_after {request : Request ContainerId GroupId}
    (hwindows : (a.after request).windows = a.windows) : a.shows [request] = [] := by
  by_cases hheeds : a.Heeds request
  · rw [shows, heeded_of_heeds hheeds]
    cases request with
    | showWindow window =>
        obtain ⟨-, shown, -, hshown⟩ | ⟨hignored, -⟩ := a.windows_after_showWindow window
        · rw [hshown] at hwindows
          simpa using congrArg Array.size hwindows
        · exact absurd hheeds hignored
    | _ => rfl
  · rw [shows, heeded_of_not_heeds hheeds]
    rfl

-- The groups in a window are those of the containers that it shows, each of which is gone
-- through once.
theorem exists_exposure (past : List (Request ContainerId GroupId)) {id : ContainerId}
    {visited : List ContainerId} {window : Window} (hnodup : visited.Nodup)
    (hassembled : (run past).assemble id.index = (window.layout, window.children))
    (hdisplays : Displays (run past) id visited (window.layout, window.children)) :
    ∃ marks, Exposes (run past) id (window, marks) ∧ marks.Nodup ∧
      marks ⊆ visited.flatMap (run past).marksIn ∧ Widget.GroupsFilledAll window.children := by
  generalize hcontent : (window.layout, window.children) = content at hdisplays
  obtain @⟨box, inside, children, hbox, hunfolds⟩ := hdisplays
  obtain ⟨marks, hcomposes, hperm, hfilled⟩ :=
    hunfolds.exists_composes fun _ => resolves_of_mem hbox
  rw [← marksIn_of_getElem? hbox, ← List.flatMap_cons] at hperm
  obtain ⟨-, rfl⟩ := Prod.mk.inj hcontent
  exact ⟨marks, ⟨hassembled, box, hbox, hcomposes⟩,
    hperm.nodup_iff.mpr ((placed_run past).nodup_flatMap_marksIn hnodup), hperm.subset, hfilled⟩

-- Groups stay in the slots where they are, so that those of all windows are counted at the end.
theorem Exhibits.exists_exposures {past requests : List (Request ContainerId GroupId)}
    {exhibits : List (Window × List ContainerId)} (h : Exhibits a requests exhibits)
    (ha : a = run past) (hnodup : (exhibits.map Prod.snd).flatten.Nodup) :
    ∃ exposures : List (Window × List GroupId),
      exposures.map Prod.fst = exhibits.map Prod.fst ∧
      List.Forall₂ (fun shown exposure => Exposes shown.1 shown.2 exposure) (a.shows requests)
        exposures ∧
      (exposures.map Prod.snd).flatten.Subperm
        ((exhibits.map Prod.snd).flatten.flatMap (a.afterAll requests).marksIn) ∧
      ∀ exposure ∈ exposures, Widget.GroupsFilledAll exposure.1.children := by
  induction h generalizing past with
  | done => exact ⟨[], rfl, .nil, List.nil_subperm, by simp⟩
  | @shown a id window visited rest exhibits hwindows hdisplays _ ih =>
      subst ha
      obtain ⟨hvisited, hlater, -⟩ := List.nodup_append.mp hnodup
      obtain ⟨exposures, hfst, hexposes, hsubperm, hfilled⟩ := ih (run_concat _ _).symm hlater
      obtain ⟨hheeds, shown, hassembled, hshown⟩ | ⟨-, hsame⟩ :=
        (run past).windows_after_showWindow id
      · obtain rfl : shown = window := (Array.push_inj_right.mp (hshown.symm.trans hwindows))
        obtain ⟨marks, hexposed, hmarks, hsubset, hfilled'⟩ :=
          exists_exposure past hvisited hassembled hdisplays
        refine ⟨(shown, marks) :: exposures, by simp [hfst], ?_, ?_, ?_⟩
        · have hshows : (run past).shows [.showWindow id] = [(run past, id)] := by
            rw [shows, heeded_of_heeds hheeds]
            rfl
          rw [shows_cons, hshows]
          exact .cons hexposed hexposes
        · have hkept : marks ⊆ visited.flatMap
              ((run past).afterAll (.showWindow id :: rest)).marksIn := by
            intro mark hmark
            obtain ⟨home, hhome, hmark⟩ := List.mem_flatMap.mp (hsubset hmark)
            exact List.mem_flatMap.mpr ⟨home, hhome, marksIn_subset_afterAll _ hmark⟩
          rw [List.map_cons, List.flatten_cons, List.map_cons, List.flatten_cons,
            List.flatMap_append]
          refine ((List.subperm_append_right _).mpr (List.subperm_of_subset hmarks hkept)).trans ?_
          exact (List.subperm_append_left _).mpr hsubperm
        · exact List.forall_mem_cons.mpr ⟨hfilled', hfilled⟩
      · rw [hsame] at hwindows
        simpa using congrArg Array.size hwindows
  | @other a request rest exhibits hwindows _ ih =>
      subst ha
      obtain ⟨exposures, hfst, hexposes, hsubperm, hfilled⟩ := ih (run_concat _ _).symm hnodup
      refine ⟨exposures, hfst, ?_, hsubperm, hfilled⟩
      rw [shows_cons, shows_of_windows_after hwindows]
      exact hexposes

-- Whatever is asked for, a group has the labels of the buttons that it has taken, and its place
-- is where the first of them went. Nothing that a window refers to is therefore missing when it is
-- shown, no group in it is empty, and no group comes up twice in all that is ever shown.
theorem groups_of_run (requests : List (Request ContainerId GroupId)) :
    (∀ mark, .group mark ∈ renderer.replies requests empty →
      (run requests).groups[mark.index]? = some ((buttons requests mark).map Button.label) ∧
      (buttons requests mark = [] →
        ∀ home place, (run requests).slot? home place ≠ some (.group mark)) ∧
      ∀ first others, buttons requests mark = first :: others →
        ∀ home place, (run requests).slot? home place = some (.group mark) ↔
          home = first.home ∧ place = first.place) ∧
    ∃ exposures : List (Window × List GroupId),
      exposures.map Prod.fst = (run requests).windows.toList ∧
      List.Forall₂ (fun shown exposure => Exposes shown.1 shown.2 exposure) (empty.shows requests)
        exposures ∧
      (exposures.map Prod.snd).flatten.Nodup ∧
      ∀ exposure ∈ exposures, Widget.GroupsFilledAll exposure.1.children := by
  have hplaced := placed_run requests
  refine ⟨fun mark hissued => ⟨?_, ?_, ?_⟩, ?_⟩
  · have hmade : mark.index < (run requests).groups.size :=
      ((Issued.empty.afterAll requests).group_iff mark).mp hissued
    have hlabels := hplaced.labels mark
    rw [Array.getElem?_eq_getElem hmade] at hlabels ⊢
    exact congrArg some hlabels
  · intro hnone home place hslot
    obtain ⟨label, hfirst⟩ := hplaced.slot_iff.mp hslot
    simp [hnone] at hfirst
  · intro first others hbuttons home place
    rw [hplaced.slot_iff, hbuttons]
    constructor
    · rintro ⟨label, hfirst⟩
      cases hfirst
      exact ⟨rfl, rfl⟩
    · rintro ⟨rfl, rfl⟩
      exact ⟨first.label, rfl⟩
  · have hnone : Shown empty [] := ⟨by simp, .nil⟩
    have hnew : empty = run [] := rfl
    obtain ⟨exhibits, hexhibits, hnodup⟩ := exists_exhibits Sound.empty hnone requests
    obtain ⟨exposures, hfst, hexposes, hsubperm, hfilled⟩ :=
      hexhibits.exists_exposures hnew hnodup
    obtain ⟨marks, hperm, hsublist⟩ := hsubperm
    have hmarks := hsublist.nodup (hplaced.nodup_flatMap_marksIn hnodup)
    exact ⟨exposures, hfst.trans hexhibits.map_fst.symm, hexposes, hperm.nodup hmarks, hfilled⟩

-- The first button of a group that is not ignored gives it its place, and the next one may name
-- another container.
example :
    let requests : List (Request ContainerId GroupId) :=
      [.createWindow "W" 1 1, .beginRadioGroup, .addRadioButton ⟨0⟩ ⟨1⟩ "A", .beginPanel ⟨0⟩,
        .addRadioButton ⟨0⟩ ⟨1⟩ "B", .addRadioButton ⟨0⟩ ⟨0⟩ "C"]
    (run requests).slot? ⟨1⟩ 0 = some (.group ⟨0⟩) ∧
      (buttons requests ⟨0⟩).map Button.label = ["B", "C"] := by
  decide

end WindowDoc.Assembler
