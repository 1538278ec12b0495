import WindowDoc.Proofs.Arena.Slots
import Mathlib.Logic.Relation
import Mathlib.Data.List.Chain

namespace WindowDoc.Assembler

-- A container that stands in no other one, as a window does.
structure Root (a : Assembler) (id : ContainerId) : Prop where
  made : id.index < a.containers.size
  free : ∀ home place, a.slot? home place ≠ some (.panel id)

-- What holds of the containers whatever was asked for. A panel may stand in itself, but then it
-- stands nowhere else.
structure Sound (a : Assembler) : Prop where
  inRange : ∀ {home panel place}, a.slot? home place = some (.panel panel) →
    panel.index < a.containers.size
  ordered : ∀ {home panel place}, a.slot? home place = some (.panel panel) →
    home.index ≤ panel.index
  once : ∀ {home home' panel place place'}, a.slot? home place = some (.panel panel) →
    a.slot? home' place' = some (.panel panel) → home = home' ∧ place = place'
  waiting : ∀ id ∈ a.pendingIds, Root a id
  apart : a.pendingIds.Nodup

variable {a : Assembler} {home home' panel panel' window : ContainerId} {place place' : Nat}

theorem Encloses.after (h : a.Encloses home panel) (request : Request ContainerId GroupId) :
    (a.after request).Encloses home panel := by
  obtain ⟨place, hslot⟩ := h
  exact ⟨place, panel_after_iff.mpr (.inl hslot)⟩

theorem Root.after (h : Root a window) (request : Request ContainerId GroupId) :
    Root (a.after request) window := by
  refine ⟨Nat.lt_of_lt_of_le h.made (a.size_le_size_after request), fun home place hslot => ?_⟩
  obtain hold | ⟨-, -, -, rfl⟩ := panel_after_iff.mp hslot
  · exact h.free home place hold
  · exact Nat.lt_irrefl _ h.made

namespace Sound

theorem empty : Sound .empty := by
  have hnone (home : ContainerId) (place : Nat) : slot? .empty home place = none := rfl
  exact ⟨by simp [hnone], by simp [hnone], by simp [hnone], by simp [pendingIds, Assembler.empty],
    .nil⟩

theorem root_created (h : Sound a) (title : String) (width height : Int32) :
    Root (a.after (.createWindow title width height)) ⟨a.containers.size⟩ := by
  refine ⟨by rw [size_after_createWindow]; exact Nat.lt_succ_self _, fun home place hslot => ?_⟩
  obtain hold | ⟨hrequest, -⟩ := panel_after_iff.mp hslot
  · exact Nat.lt_irrefl _ (h.inRange hold)
  · cases hrequest

theorem once_after (h : Sound a) {request : Request ContainerId GroupId}
    (hslot : (a.after request).slot? home place = some (.panel panel))
    (hslot' : (a.after request).slot? home' place' = some (.panel panel)) :
    home = home' ∧ place = place' := by
  obtain hold | ⟨hrequest, -, hplace, hnew⟩ := panel_after_iff.mp hslot
  · obtain hold' | ⟨-, -, -, hnew⟩ := panel_after_iff.mp hslot'
    · exact h.once hold hold'
    · rw [hnew] at hold
      exact absurd (h.inRange hold) (Nat.lt_irrefl _)
  · obtain hold' | ⟨hrequest', -, hplace', -⟩ := panel_after_iff.mp hslot'
    · rw [hnew] at hold'
      exact absurd (h.inRange hold') (Nat.lt_irrefl _)
    · obtain rfl := Request.beginPanel.inj (hrequest.symm.trans hrequest')
      exact ⟨rfl, hplace.trans hplace'.symm⟩

-- The windows that wait, with a new one at most.
theorem waiting_after (h : Sound a) (request : Request ContainerId GroupId) :
    (∀ id ∈ (a.after request).pendingIds, Root (a.after request) id) ∧
      (a.after request).pendingIds.Nodup := by
  obtain ⟨⟨title, width, height, rfl⟩, hids⟩ | hsublist := a.pendingIds_after request
  · rw [hids]
    refine ⟨fun id hid => ?_, ?_⟩
    · obtain hold | hnew := List.mem_append.mp hid
      · exact (h.waiting id hold).after _
      · rw [List.mem_singleton.mp hnew]
        exact h.root_created title width height
    · refine List.nodup_append.mpr ⟨h.apart, List.pairwise_singleton _ _, ?_⟩
      rintro id hold new hnew rfl
      have hmade := (h.waiting id hold).made
      rw [List.mem_singleton.mp hnew] at hmade
      exact Nat.lt_irrefl _ hmade
  · exact ⟨fun id hid => (h.waiting id (hsublist.subset hid)).after request,
      hsublist.nodup h.apart⟩

theorem after (h : Sound a) (request : Request ContainerId GroupId) :
    Sound (a.after request) := by
  obtain ⟨hwaiting, hapart⟩ := h.waiting_after request
  refine ⟨?_, ?_, h.once_after, hwaiting, hapart⟩
  · intro home panel place hslot
    obtain hold | ⟨rfl, -, -, rfl⟩ := panel_after_iff.mp hslot
    · exact Nat.lt_of_lt_of_le (h.inRange hold) (a.size_le_size_after request)
    · rw [size_after_beginPanel]
      exact Nat.lt_succ_self _
  · intro home panel place hslot
    obtain hold | ⟨-, hhome, -, rfl⟩ := panel_after_iff.mp hslot
    · exact h.ordered hold
    · exact hhome

end Sound

theorem Sound.afterAll (h : Sound a) (requests : List (Request ContainerId GroupId)) :
    Sound (a.afterAll requests) :=
  afterAll_induction (fun request h => h.after request) h requests

theorem Root.afterAll (h : Root a window) (requests : List (Request ContainerId GroupId)) :
    Root (a.afterAll requests) window :=
  afterAll_induction (P := (Root · window)) (fun request h => h.after request) h requests

-- What stands in a container, in the panels in it, and so on.
def Reaches (a : Assembler) : ContainerId → ContainerId → Prop := Relation.ReflTransGen a.Encloses

theorem Reaches.after (h : a.Reaches home panel) (request : Request ContainerId GroupId) :
    (a.after request).Reaches home panel := by
  induction h with
  | refl => exact .refl
  | tail _ hencloses ih => exact ih.tail (hencloses.after request)

theorem Reaches.afterAll (h : a.Reaches home panel)
    (requests : List (Request ContainerId GroupId)) : (a.afterAll requests).Reaches home panel :=
  afterAll_induction (P := (Reaches · home panel)) (fun request h => h.after request) h requests

-- Nothing but the window itself leads to a window.
theorem Root.eq_of_reaches (h : Root a window) (hreaches : a.Reaches home window) :
    home = window := by
  obtain rfl | ⟨between, -, place, hslot⟩ := Relation.ReflTransGen.cases_tail hreaches
  · rfl
  · exact absurd hslot (h.free between place)

namespace Sound

theorem eq_of_encloses (h : Sound a) (hhome : a.Encloses home panel)
    (hhome' : a.Encloses home' panel) : home = home' := by
  obtain ⟨place, hslot⟩ := hhome
  obtain ⟨place', hslot'⟩ := hhome'
  exact (h.once hslot hslot').1

-- What stands in a container that does not stand in itself comes after it, and does not stand in
-- itself either.
theorem lt_of_encloses (h : Sound a) (hloose : ¬ a.Encloses home home)
    (hencloses : a.Encloses home panel) :
    home.index < panel.index ∧ ¬ a.Encloses panel panel := by
  have hne : home ≠ panel := by
    rintro rfl
    exact hloose hencloses
  obtain ⟨place, hslot⟩ := id hencloses
  have hle := h.ordered hslot
  refine ⟨Nat.lt_of_le_of_ne hle fun hindex => hne (congrArg ContainerId.mk hindex), ?_⟩
  intro hself
  exact hne (h.eq_of_encloses hencloses hself)

theorem le_of_reaches (h : Sound a) (hreaches : a.Reaches home panel) :
    home.index ≤ panel.index := by
  induction hreaches with
  | refl => exact Nat.le_refl _
  | tail _ hencloses ih =>
      obtain ⟨place, hslot⟩ := hencloses
      exact Nat.le_trans ih (h.ordered hslot)

-- Of two containers that lead to the same one, one leads to the other.
theorem total_of_reaches (h : Sound a) (hreaches : a.Reaches home panel)
    (hreaches' : a.Reaches home' panel) : a.Reaches home home' ∨ a.Reaches home' home := by
  have hunique : Relator.RightUnique (Function.swap a.Encloses) :=
    fun _ _ _ hfirst hsecond => h.eq_of_encloses hfirst hsecond
  have hup := Relation.reflTransGen_swap.mpr hreaches
  have hup' := Relation.reflTransGen_swap.mpr hreaches'
  obtain hfirst | hsecond := Relation.ReflTransGen.total_of_right_unique hunique hup hup'
  · exact .inr (Relation.reflTransGen_swap.mp hfirst)
  · exact .inl (Relation.reflTransGen_swap.mp hsecond)

-- Panels beside each other do not lead to each other.
theorem not_reaches_beside (h : Sound a) (hne : panel ≠ panel')
    (hencloses : a.Encloses home panel) (hencloses' : a.Encloses home panel')
    (hlt : home.index < panel.index) : ¬ a.Reaches panel panel' := by
  intro hreaches
  obtain rfl | ⟨between, hbetween, hlast⟩ := Relation.ReflTransGen.cases_tail hreaches
  · exact hne rfl
  · obtain rfl := h.eq_of_encloses hlast hencloses'
    have hle := h.le_of_reaches hbetween
    omega

-- Every way down from a container that does not stand in itself goes through ever greater
-- numbers.
theorem increasing_of_chain (h : Sound a) (hloose : ¬ a.Encloses home home)
    (hmade : home.index < a.containers.size) {chain : List ContainerId}
    (hchain : (home :: chain).IsChain a.Encloses) :
    (home :: chain).Pairwise (fun outer inner => outer.index < inner.index) ∧
      ∀ id ∈ home :: chain, id.index < a.containers.size := by
  induction chain generalizing home with
  | nil => exact ⟨List.pairwise_singleton _ _, by simpa using hmade⟩
  | cons next chain ih =>
      obtain ⟨hencloses, hrest⟩ := List.isChain_cons_cons.mp hchain
      obtain ⟨hlt, hnext⟩ := h.lt_of_encloses hloose hencloses
      obtain ⟨place, hslot⟩ := hencloses
      obtain ⟨hincreasing, hbound⟩ := ih hnext (h.inRange hslot) hrest
      refine ⟨List.pairwise_cons.mpr ⟨fun id hid => ?_, hincreasing⟩, ?_⟩
      · obtain rfl | hlater := List.mem_cons.mp hid
        · exact hlt
        · exact Nat.lt_trans hlt ((List.pairwise_cons.mp hincreasing).1 id hlater)
      · exact List.forall_mem_cons.mpr ⟨hmade, hbound⟩

end Sound

theorem Root.not_encloses_self (h : Root a window) : ¬ a.Encloses window window := by
  rintro ⟨place, hslot⟩
  exact h.free window place hslot

end WindowDoc.Assembler
