import WindowDoc.Proofs.Arena.Forest

namespace WindowDoc.Assembler

-- What the slots of a container stand for, with all containers that are gone through in order.
-- Nothing bounds the descent here, so there is an unfolding only where it comes to an end.
inductive Unfolds (a : Assembler) : List Slot → List ContainerId → List Widget → Prop where
  | nil : Unfolds a [] [] []
  | widget {widget rest visited widgets} : Unfolds a rest visited widgets →
      Unfolds a (.widget widget :: rest) visited (widget :: widgets)
  | group {id rest visited widgets} : Unfolds a rest visited widgets →
      Unfolds a (.group id :: rest) visited
        (.radioGroup (a.groups[id.index]?.getD []) :: widgets)
  | missing {id rest visited widgets} : a.containers[id.index]? = none →
      Unfolds a rest visited widgets →
      Unfolds a (.panel id :: rest) visited (.panel .flow [] :: widgets)
  | panel {id box inside children rest visited widgets} : a.containers[id.index]? = some box →
      Unfolds a box.slots.toList inside children → Unfolds a rest visited widgets →
      Unfolds a (.panel id :: rest) (id :: inside ++ visited)
        (.panel box.layout children :: widgets)

-- What a window shows, with the containers that it shows the content of.
inductive Displays (a : Assembler) (window : ContainerId) :
    List ContainerId → Layout × List Widget → Prop where
  | intro {box inside children} : a.containers[window.index]? = some box →
      Unfolds a box.slots.toList inside children →
      Displays a window (window :: inside) (box.layout, children)

variable {a : Assembler} {home panel window : ContainerId} {box : Container} {slots : List Slot}
  {visited : List ContainerId} {widgets : List Widget}

theorem encloses_iff (hbox : a.containers[home.index]? = some box) :
    a.Encloses home panel ↔ .panel panel ∈ box.slots.toList := by
  rw [List.mem_iff_getElem?, Encloses]
  simp only [slot?, hbox, Option.bind_some, Array.getElem?_toList]

-- Nothing that stands in itself can be unfolded.

theorem Unfolds.not_encloses_self (h : Unfolds a slots visited widgets)
    (hpanel : .panel panel ∈ slots) : ¬ a.Encloses panel panel := by
  induction h with
  | nil => cases hpanel
  | widget _ ih | group _ ih => exact ih (by simpa using hpanel)
  | missing hnone _ ih =>
      obtain heq | hrest := List.mem_cons.mp hpanel
      · rintro ⟨place, hslot⟩
        obtain ⟨box, hbox, -⟩ := slot?_eq_some_iff.mp hslot
        rw [Slot.panel.inj heq, hnone] at hbox
        cases hbox
      · exact ih hrest
  | panel hbox _ _ ihinside ih =>
      obtain heq | hrest := List.mem_cons.mp hpanel
      · obtain rfl := Slot.panel.inj heq
        intro hself
        exact ihinside ((encloses_iff hbox).mp hself) hself
      · exact ih hrest

theorem not_displays_of_encloses_self (h : a.Encloses panel panel)
    (content : Layout × List Widget) : ¬ Displays a panel visited content := by
  rintro ⟨hbox, hunfolds⟩
  exact hunfolds.not_encloses_self ((encloses_iff hbox).mp h) h

-- All that is gone through stands in the container.

theorem Unfolds.exists_reaches {id : ContainerId} (h : Unfolds a slots visited widgets)
    (hid : id ∈ visited) : ∃ panel, .panel panel ∈ slots ∧ a.Reaches panel id := by
  induction h with
  | nil => cases hid
  | widget _ ih | group _ ih | missing _ _ ih =>
      obtain ⟨panel, hpanel, hreaches⟩ := ih hid
      exact ⟨panel, List.mem_cons_of_mem _ hpanel, hreaches⟩
  | @panel first _ _ _ _ _ _ hbox _ _ ihinside ih =>
      obtain hinside | hrest := List.mem_append.mp hid
      · obtain rfl | hinside := List.mem_cons.mp hinside
        · exact ⟨id, List.mem_cons_self, .refl⟩
        · obtain ⟨panel, hpanel, hreaches⟩ := ihinside hinside
          exact ⟨first, List.mem_cons_self, .head ((encloses_iff hbox).mpr hpanel) hreaches⟩
      · obtain ⟨panel, hpanel, hreaches⟩ := ih hrest
        exact ⟨panel, List.mem_cons_of_mem _ hpanel, hreaches⟩

theorem Displays.reaches {id : ContainerId} {content : Layout × List Widget}
    (h : Displays a window visited content) (hid : id ∈ visited) : a.Reaches window id := by
  obtain ⟨hbox, hunfolds⟩ := h
  obtain rfl | hinside := List.mem_cons.mp hid
  · exact .refl
  · obtain ⟨panel, hpanel, hreaches⟩ := hunfolds.exists_reaches hinside
    exact .head ((encloses_iff hbox).mpr hpanel) hreaches

-- Unfolding comes to an end if the numbers increase on every way down.

theorem exists_unfolds_of_panels {slots : List Slot}
    (h : ∀ panel, .panel panel ∈ slots → home.index < panel.index ∧
      ∃ box, a.containers[panel.index]? = some box ∧
        ∃ inside, Unfolds a box.slots.toList inside
          (box.slots.toList.map (a.slotWidget panel.index))) :
    ∃ visited, Unfolds a slots visited (slots.map (a.slotWidget home.index)) := by
  induction slots with
  | nil => exact ⟨[], .nil⟩
  | cons slot slots ih =>
      obtain ⟨visited, hrest⟩ := ih fun panel hpanel => h panel (List.mem_cons_of_mem _ hpanel)
      cases slot with
      | widget widget => exact ⟨visited, .widget hrest⟩
      | group id => exact ⟨visited, .group hrest⟩
      | panel id =>
          obtain ⟨hlt, box, hbox, inside, hinside⟩ := h id List.mem_cons_self
          have hmade := (Array.getElem?_eq_some_iff.mp hbox).1
          rw [List.map_cons, slotWidget, if_pos ⟨hlt, hmade⟩, assemble_of_getElem? hbox]
          exact ⟨_, .panel hbox hinside hrest⟩

theorem Sound.exists_unfolds (h : Sound a) (hbox : a.containers[home.index]? = some box)
    (hloose : ¬ a.Encloses home home) :
    ∃ visited, Unfolds a box.slots.toList visited
      (box.slots.toList.map (a.slotWidget home.index)) := by
  induction hleft : a.containers.size - home.index using Nat.strongRecOn generalizing home box with
  | ind left ih =>
      refine exists_unfolds_of_panels fun panel hpanel => ?_
      have hencloses := (encloses_iff hbox).mpr hpanel
      obtain ⟨hlt, hpanel⟩ := h.lt_of_encloses hloose hencloses
      obtain ⟨place, hslot⟩ := hencloses
      have hmade := h.inRange hslot
      have hinside := Array.getElem?_eq_getElem hmade
      exact ⟨hlt, _, hinside, ih _ (by omega) hinside hpanel rfl⟩

theorem Sound.exists_displays (h : Sound a) (hroot : Root a window) :
    ∃ visited, Displays a window visited (a.assemble window.index) := by
  have hbox := Array.getElem?_eq_getElem hroot.made
  obtain ⟨visited, hunfolds⟩ := h.exists_unfolds hbox hroot.not_encloses_self
  rw [assemble_of_getElem? hbox]
  exact ⟨_, .intro hbox hunfolds⟩

-- No container is gone through twice.

theorem Sound.pairwise_slots (h : Sound a) (hbox : a.containers[home.index]? = some box) :
    box.slots.toList.Pairwise fun slot later =>
      ∀ panel, slot = .panel panel → later ≠ .panel panel := by
  have hplace {place : Nat} (hplace : place < box.slots.toList.length) {panel : ContainerId}
      (hslot : box.slots.toList[place] = .panel panel) :
      a.slot? home place = some (.panel panel) := by
    refine slot?_eq_some_iff.mpr ⟨box, hbox, ?_⟩
    rw [← Array.getElem?_toList, List.getElem?_eq_getElem hplace, hslot]
  refine List.pairwise_iff_getElem.mpr fun first second hfirst hsecond hlt panel hslot hlater => ?_
  obtain ⟨-, rfl⟩ := h.once (hplace hfirst hslot) (hplace hsecond hlater)
  exact Nat.lt_irrefl _ hlt

theorem Sound.nodup_of_unfolds (h : Sound a) (hunfolds : Unfolds a slots visited widgets)
    (hslots : ∀ panel, .panel panel ∈ slots →
      a.Encloses home panel ∧ home.index < panel.index)
    (honce : slots.Pairwise fun slot later => ∀ panel, slot = .panel panel → later ≠ .panel panel) :
    visited.Nodup := by
  induction hunfolds generalizing home with
  | nil => exact .nil
  | widget _ ih | group _ ih | missing _ _ ih =>
      exact ih (fun panel hpanel => hslots panel (List.mem_cons_of_mem _ hpanel)) honce.of_cons
  | @panel first box inside _ rest visited _ hbox hinside hrest ihinside ih =>
      obtain ⟨hencloses, hlt⟩ := hslots first List.mem_cons_self
      have hloose : ¬ a.Encloses first first := by
        intro hself
        rw [h.eq_of_encloses hencloses hself] at hlt
        exact Nat.lt_irrefl _ hlt
      have hpanels (panel : ContainerId) (hpanel : .panel panel ∈ box.slots.toList) :
          a.Encloses first panel ∧ first.index < panel.index := by
        have hpanel := (encloses_iff hbox).mpr hpanel
        exact ⟨hpanel, (h.lt_of_encloses hloose hpanel).1⟩
      have hfirst : (first :: inside).Nodup := by
        refine List.nodup_cons.mpr ⟨fun hmem => ?_, ihinside hpanels (h.pairwise_slots hbox)⟩
        obtain ⟨panel, hpanel, hreaches⟩ := hinside.exists_reaches hmem
        have hless := (hpanels panel hpanel).2
        have hle := h.le_of_reaches hreaches
        omega
      have hlater := ih (fun panel hpanel => hslots panel (List.mem_cons_of_mem _ hpanel))
        honce.of_cons
      refine List.nodup_append.mpr ⟨hfirst, hlater, ?_⟩
      -- what two panels in one container lead to is apart
      rintro id hid other hother rfl
      have hreaches := (Displays.intro hbox hinside).reaches hid
      obtain ⟨panel, hpanel, hreaches'⟩ := hrest.exists_reaches hother
      have hne : panel ≠ first := by
        rintro rfl
        exact (List.pairwise_cons.mp honce).1 _ hpanel panel rfl rfl
      obtain ⟨hencloses', hlt'⟩ := hslots panel (List.mem_cons_of_mem _ hpanel)
      obtain hdown | hdown := h.total_of_reaches hreaches hreaches'
      · exact h.not_reaches_beside hne.symm hencloses hencloses' hlt hdown
      · exact h.not_reaches_beside hne hencloses' hencloses hlt' hdown

theorem Sound.nodup_of_displays (h : Sound a) (hroot : Root a window)
    {content : Layout × List Widget} (hdisplays : Displays a window visited content) :
    visited.Nodup := by
  obtain @⟨box, _, _, hbox, hunfolds⟩ := hdisplays
  have hpanels (panel : ContainerId) (hpanel : .panel panel ∈ box.slots.toList) :
      a.Encloses window panel ∧ window.index < panel.index := by
    have hpanel := (encloses_iff hbox).mpr hpanel
    exact ⟨hpanel, (h.lt_of_encloses hroot.not_encloses_self hpanel).1⟩
  refine List.nodup_cons.mpr ⟨fun hmem => ?_,
    h.nodup_of_unfolds hunfolds hpanels (h.pairwise_slots hbox)⟩
  obtain ⟨panel, hpanel, hreaches⟩ := hunfolds.exists_reaches hmem
  rw [hroot.eq_of_reaches hreaches] at hpanel
  exact hroot.not_encloses_self ((encloses_iff hbox).mpr hpanel)

end WindowDoc.Assembler
