import WindowDoc.Proofs.Arena.Exhibits

namespace WindowDoc

instance {α : Type} (x : Logged α) : Decidable x.Quiet := inferInstanceAs (Decidable (_ = _))

namespace Renderer

variable {σ κ γ : Type} (r : Renderer σ κ γ)

-- The requests of a run that are not ignored with a warning, each with the state that it met.
def heeded : List (Request κ γ) → σ → List (σ × Request κ γ)
  | [], _ => []
  | request :: requests, state =>
      let rest := heeded requests (r.perform request state).value.2
      if (r.perform request state).Quiet then (state, request) :: rest else rest

theorem heeded_append (requests more : List (Request κ γ)) (state : σ) :
    r.heeded (requests ++ more) state =
      r.heeded requests state ++ r.heeded more (r.performAll requests state).value := by
  induction requests generalizing state with
  | nil => rfl
  | cons request requests ih =>
      simp only [List.cons_append, heeded, ih]
      split <;> rfl

end Renderer

namespace Assembler

variable {a : Assembler}

-- The requests that are not ignored. A panel may be begun inside of itself.
def Heeds (a : Assembler) : Request ContainerId GroupId → Prop
  | .createWindow .. | .beginRadioGroup => True
  | .setLayout id _ | .addButton id _ | .addLabel id _ | .addTextField id _ =>
      id.index < a.containers.size
  | .beginPanel parent => parent.index ≤ a.containers.size
  | .addRadioButton mark id _ => ∃ labels, a.groups[mark.index]? = some labels ∧
      (labels = [] → id.index < a.containers.size)
  | .showWindow window => window ∈ a.pendingIds

theorem quiet_addSlot_iff (id : ContainerId) (slot : Slot) :
    (a.addSlot id slot).Quiet ↔ id.index < a.containers.size := by
  rw [addSlot]
  split <;> simp_all [isContainer, Entry.level]

theorem quiet_perform_iff (request : Request ContainerId GroupId) :
    (renderer.perform request a).Quiet ↔ a.Heeds request := by
  cases request with
  | createWindow title width height => exact iff_of_true rfl trivial
  | setLayout id layout =>
      have hquiet : (renderer.setLayout id layout a).Quiet ↔ id.index < a.containers.size := by
        simp only [renderer]
        split <;> simp_all [isContainer, Entry.level]
      simpa [Renderer.perform, Heeds] using hquiet
  | addButton id label => simpa [Renderer.perform, renderer, Heeds] using quiet_addSlot_iff id _
  | addLabel id text => simpa [Renderer.perform, renderer, Heeds] using quiet_addSlot_iff id _
  | addTextField id columns =>
      simpa [Renderer.perform, renderer, Heeds] using quiet_addSlot_iff id _
  | beginPanel parent =>
      have hquiet := quiet_addSlot_iff (a := a.addContainer.2) parent (.panel ⟨a.containers.size⟩)
      rw [addContainer, Array.size_push, Nat.lt_succ_iff] at hquiet
      simpa [Renderer.perform, renderer, addContainer, Heeds] using hquiet
  | beginRadioGroup => exact iff_of_true rfl trivial
  | addRadioButton mark id label =>
      have hquiet : (a.addRadioButton mark id label).Quiet ↔
          ∃ labels, a.groups[mark.index]? = some labels ∧
            (labels = [] → id.index < a.containers.size) := by
        rw [addRadioButton]
        cases a.groups[mark.index]? with
        | none => simp [Entry.level]
        | some labels =>
            cases labels with
            | nil => by_cases hmade : id.index < a.containers.size <;>
                simp [isContainer, hmade, Entry.level]
            | cons first others => simp
      simpa [Renderer.perform, renderer, Heeds] using hquiet
  | showWindow window =>
      have hquiet : (a.showWindow window).Quiet ↔ window ∈ a.pendingIds := by
        rw [showWindow]
        cases hfind : a.pending.find? (·.id = window) with
        | none =>
            have hnone : window ∉ a.pendingIds := by
              simpa [pendingIds] using hfind
            simp [Entry.level, hnone]
        | some entry =>
            have hentry := List.mem_of_find?_eq_some hfind
            have hid : entry.id = window := by simpa using List.find?_some hfind
            have hwaiting : window ∈ a.pendingIds := hid ▸ List.mem_map_of_mem hentry
            simp [Entry.level, hwaiting]
      simpa [Renderer.perform, renderer, Heeds] using hquiet

theorem heeded_of_heeds {request : Request ContainerId GroupId} (h : a.Heeds request) :
    renderer.heeded [request] a = [(a, request)] := by
  rw [Renderer.heeded, if_pos ((quiet_perform_iff request).mpr h)]
  rfl

theorem heeded_of_not_heeds {request : Request ContainerId GroupId} (h : ¬ a.Heeds request) :
    renderer.heeded [request] a = [] := by
  rw [Renderer.heeded, if_neg (mt (quiet_perform_iff request).mp h)]
  rfl

-- The widget that a request adds to a container, if it adds one on its own.
def addedWidget? : Request ContainerId GroupId → Option (ContainerId × Widget)
  | .addButton id label => some (id, .button label)
  | .addLabel id text => some (id, .label text)
  | .addTextField id columns => some (id, .textField columns)
  | _ => none

-- Where a request puts a slot, and which one.
inductive Adds (a : Assembler) : Request ContainerId GroupId → ContainerId → Slot → Prop where
  | widget {request home widget} : addedWidget? request = some (home, widget) →
      home.index < a.containers.size → Adds a request home (.widget widget)
  | panel {home} : home.index ≤ a.containers.size →
      Adds a (.beginPanel home) home (.panel ⟨a.containers.size⟩)
  | group {mark home label} : a.groups[mark.index]? = some [] → home.index < a.containers.size →
      Adds a (.addRadioButton mark home label) home (.group mark)

variable {home : ContainerId} {place : Nat} {slot : Slot}
  {request : Request ContainerId GroupId}

theorem slot?_addWidget_iff {id : ContainerId} {widget : Widget}
    (hrequest : addedWidget? request = some (id, widget)) :
    (a.addSlot id (.widget widget)).value.slot? home place = some slot ↔
      a.slot? home place = some slot ∨ a.Adds request home slot ∧ place = a.width home := by
  rw [value_addSlot_eq, slot?_push_iff]
  refine or_congr_right ⟨?_, ?_⟩
  · rintro ⟨rfl, hmade, rfl, rfl⟩
    exact ⟨.widget hrequest hmade, rfl⟩
  · rintro ⟨hadds, rfl⟩
    cases hadds with
    | widget hadded hmade =>
        cases hrequest.symm.trans hadded
        exact ⟨rfl, hmade, rfl, rfl⟩
    | panel | group => cases hrequest

theorem slot?_iff_of_not_adds {b : Assembler} (hsame : b.slot? home place = a.slot? home place)
    (hadds : ¬ a.Adds request home slot) : b.slot? home place = some slot ↔
      a.slot? home place = some slot ∨ a.Adds request home slot ∧ place = a.width home := by
  rw [hsame]
  exact (or_iff_left fun h => hadds h.1).symm

-- A request changes the arena by filling the first free place of a container.
theorem slot?_after_iff (request : Request ContainerId GroupId) :
    (a.after request).slot? home place = some slot ↔
      a.slot? home place = some slot ∨ a.Adds request home slot ∧ place = a.width home := by
  cases request with
  | createWindow title width height =>
      have hsame : (a.after (.createWindow title width height)).slot? = a.addContainer.2.slot? :=
        slot?_congr rfl
      exact slot?_iff_of_not_adds (by rw [hsame, slot?_addContainer]) nofun
  | setLayout id layout =>
      exact slot?_iff_of_not_adds (by rw [after_setLayout, slot?_update_layout]) nofun
  | addButton id label => exact slot?_addWidget_iff rfl
  | addLabel id text => exact slot?_addWidget_iff rfl
  | addTextField id columns => exact slot?_addWidget_iff rfl
  | beginPanel parent =>
      have hsize : a.addContainer.2.containers.size = a.containers.size + 1 := Array.size_push ..
      rw [after_beginPanel, slot?_push_iff, slot?_addContainer, width_addContainer, hsize,
        Nat.lt_succ_iff]
      refine or_congr_right ⟨?_, ?_⟩
      · rintro ⟨rfl, hmade, rfl, rfl⟩
        exact ⟨.panel hmade, rfl⟩
      · rintro ⟨hadds, rfl⟩
        cases hadds with
        | widget hadded => cases hadded
        | panel hmade => exact ⟨rfl, hmade, rfl, rfl⟩
  | beginRadioGroup =>
      have hsame : (a.after .beginRadioGroup).slot? = a.slot? := slot?_congr rfl
      exact slot?_iff_of_not_adds (by rw [hsame]) nofun
  | addRadioButton mark id label =>
      by_cases hfirst : a.groups[mark.index]? = some [] ∧ id.index < a.containers.size
      · have hafter : a.after (.addRadioButton mark id label) = _ :=
          value_addRadioButton hfirst.1 hfirst.2 label
        rw [hafter, if_pos rfl, slot?_push_iff]
        refine or_congr_right ⟨?_, ?_⟩
        · rintro ⟨rfl, hmade, rfl, rfl⟩
          exact ⟨.group hfirst.1 hmade, rfl⟩
        · rintro ⟨hadds, rfl⟩
          cases hadds with
          | widget hadded => cases hadded
          | group _ hmade => exact ⟨rfl, hmade, rfl, rfl⟩
      · have hsame : (a.after (.addRadioButton mark id label)).slot? = a.slot? := by
          obtain hafter | ⟨labels, -, -, hafter⟩ | ⟨hlabels, hmade, -⟩ :=
            a.after_addRadioButton mark id label
          · rw [hafter]
          · rw [hafter]
            exact slot?_congr rfl
          · exact absurd ⟨hlabels, hmade⟩ hfirst
        refine slot?_iff_of_not_adds (by rw [hsame]) fun hadds => ?_
        cases hadds with
        | widget hadded => cases hadded
        | group hlabels hmade => exact hfirst ⟨hlabels, hmade⟩
  | showWindow window =>
      exact slot?_iff_of_not_adds (by rw [slot?_congr (a.containers_after_showWindow window)]) nofun

end Assembler

end WindowDoc
