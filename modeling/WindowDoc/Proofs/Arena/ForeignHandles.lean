import WindowDoc.Proofs.Arena.Exhibits

namespace WindowDoc

variable {σ κ γ : Type}

-- A request that acts on a container or a group which has not been given out. A panel may be
-- begun anywhere.
def Request.Foreign (issued : List (Reply κ γ)) : Request κ γ → Prop
  | .setLayout container _ | .addButton container _ | .addLabel container _
  | .addTextField container _ | .showWindow container => .container container ∉ issued
  | .addRadioButton group container _ =>
      .group group ∉ issued ∨ .container container ∉ issued
  | .createWindow .. | .beginPanel _ | .beginRadioGroup => False

instance [DecidableEq κ] [DecidableEq γ] (issued : List (Reply κ γ)) :
    DecidablePred (Request.Foreign issued)
  | .setLayout container _ | .addButton container _ | .addLabel container _
  | .addTextField container _ | .showWindow container =>
      inferInstanceAs (Decidable (.container container ∉ issued))
  | .addRadioButton group container _ =>
      inferInstanceAs (Decidable (.group group ∉ issued ∨ .container container ∉ issued))
  | .createWindow .. | .beginPanel _ | .beginRadioGroup => inferInstanceAs (Decidable False)

namespace Renderer

-- What the requests of a run are answered with.
def replies (r : Renderer σ κ γ) : List (Request κ γ) → σ → List (Reply κ γ)
  | [], _ => []
  | request :: requests, state =>
      let (reply, next) := (r.perform request state).value
      reply :: r.replies requests next

-- The requests of a run without those that are foreign when they are made.
def withoutForeign [DecidableEq κ] [DecidableEq γ] (r : Renderer σ κ γ)
    (issued : List (Reply κ γ)) : List (Request κ γ) → σ → List (Request κ γ)
  | [], _ => []
  | request :: requests, state =>
      let (reply, next) := (r.perform request state).value
      let rest := r.withoutForeign (issued ++ [reply]) requests next
      if request.Foreign issued then rest else request :: rest

end Renderer

namespace Assembler

variable {a : Assembler} {issued : List (Reply ContainerId GroupId)}

-- What has been given out are the numbers of the containers and groups there are.
structure Issued (a : Assembler) (issued : List (Reply ContainerId GroupId)) : Prop where
  container_iff : ∀ id, .container id ∈ issued ↔ id.index < a.containers.size
  group_iff : ∀ id, .group id ∈ issued ↔ id.index < a.groups.size

namespace Issued

theorem empty : Issued .empty [] :=
  ⟨fun _ => iff_of_false List.not_mem_nil (Nat.not_lt_zero _),
    fun _ => iff_of_false List.not_mem_nil (Nat.not_lt_zero _)⟩

variable {b : Assembler}

theorem done (h : Issued a issued) (hcontainers : b.containers.size = a.containers.size)
    (hgroups : b.groups.size = a.groups.size) : Issued b (issued ++ [.done]) := by
  refine ⟨fun id => ?_, fun id => ?_⟩
  · rw [hcontainers, ← h.container_iff]
    simp
  · rw [hgroups, ← h.group_iff]
    simp

theorem container (h : Issued a issued) (hcontainers : b.containers.size = a.containers.size + 1)
    (hgroups : b.groups.size = a.groups.size) :
    Issued b (issued ++ [.container ⟨a.containers.size⟩]) := by
  refine ⟨fun ⟨index⟩ => ?_, fun id => ?_⟩
  · rw [hcontainers, Nat.lt_succ_iff_lt_or_eq, ← h.container_iff, List.mem_append,
      List.mem_singleton, Reply.container.injEq, ContainerId.mk.injEq]
  · rw [hgroups, ← h.group_iff]
    simp

theorem group (h : Issued a issued) (hcontainers : b.containers.size = a.containers.size)
    (hgroups : b.groups.size = a.groups.size + 1) :
    Issued b (issued ++ [.group ⟨a.groups.size⟩]) := by
  refine ⟨fun id => ?_, fun ⟨index⟩ => ?_⟩
  · rw [hcontainers, ← h.container_iff]
    simp
  · rw [hgroups, Nat.lt_succ_iff_lt_or_eq, ← h.group_iff, List.mem_append, List.mem_singleton,
      Reply.group.injEq, GroupId.mk.injEq]

theorem after (h : Issued a issued) (request : Request ContainerId GroupId) :
    Issued (a.after request) (issued ++ [(renderer.perform request a).value.1]) := by
  cases request with
  | createWindow title width height =>
      exact h.container (size_after_createWindow title width height) rfl
  | beginPanel parent =>
      exact h.container (size_after_beginPanel parent) (groups_size_after (by simp))
  | beginRadioGroup => exact h.group rfl (Array.size_push ..)
  | showWindow window =>
      exact h.done (congrArg Array.size (a.containers_after_showWindow window))
        (groups_size_after (by simp))
  | _ =>
      exact h.done (change_after (by simp) (by simp) (by simp)).size_eq
        (groups_size_after (by simp))

theorem afterAll (h : Issued a issued) (requests : List (Request ContainerId GroupId)) :
    Issued (a.afterAll requests) (issued ++ renderer.replies requests a) := by
  induction requests generalizing a issued with
  | nil =>
      rw [Renderer.replies, List.append_nil]
      exact h
  | cons request requests ih =>
      have hrest := ih (h.after request)
      rw [List.append_assoc] at hrest
      exact hrest

end Issued

-- A radio button whose container was never made is meant for a group without a button, if the
-- group was begun at all.
def InPlace (a : Assembler) : Request ContainerId GroupId → Prop
  | .addRadioButton group container _ =>
      container.index < a.containers.size ∨ a.groups[group.index]?.getD [] = []
  | _ => True

-- A foreign request comes to nothing, but for a radio button that is added to a group which has
-- one already.
theorem after_of_foreign (hsound : Sound a) (hissued : Issued a issued)
    {request : Request ContainerId GroupId} (hforeign : request.Foreign issued)
    (hplace : a.InPlace request) : a.after request = a := by
  have hle {id : ContainerId} (hid : .container id ∉ issued) : a.containers.size ≤ id.index :=
    Nat.le_of_not_lt fun hlt => hid ((hissued.container_iff id).mpr hlt)
  cases request with
  | createWindow | beginPanel | beginRadioGroup => exact hforeign.elim
  | setLayout id layout =>
      rw [after_setLayout]
      exact update_of_le (hle hforeign) _
  | addButton id label | addLabel id text | addTextField id columns =>
      exact (value_addSlot_eq id _).trans (update_of_le (hle hforeign) _)
  | addRadioButton group id label =>
      have hknown {labels : List String} (hlabels : a.groups[group.index]? = some labels) :
          a.containers.size ≤ id.index := by
        have hgroup := (hissued.group_iff group).mpr (Array.getElem?_eq_some_iff.mp hlabels).1
        exact hle (hforeign.resolve_left (not_not_intro hgroup))
      obtain hafter | ⟨labels, hlabels, hfilled, -⟩ | ⟨hlabels, hmade, -⟩ :=
        a.after_addRadioButton group id label
      · exact hafter
      · have hempty := hplace.resolve_left (Nat.not_lt_of_le (hknown hlabels))
        rw [hlabels] at hempty
        exact absurd hempty hfilled
      · exact absurd hmade (Nat.not_lt_of_le (hknown hlabels))
  | showWindow window =>
      obtain ⟨hafter, -⟩ | ⟨entry, hentry, hid, -⟩ := a.after_showWindow window
      · exact hafter
      · have hroot := hsound.waiting window (List.mem_map.mpr ⟨entry, hentry, hid⟩)
        exact absurd hroot.made (Nat.not_lt_of_le (hle hforeign))

theorem afterAll_withoutForeign (hsound : Sound a) (hissued : Issued a issued)
    {requests : List (Request ContainerId GroupId)}
    (h : ∀ before request later, requests = before ++ request :: later →
      (a.afterAll before).InPlace request) :
    a.afterAll (renderer.withoutForeign issued requests a) = a.afterAll requests := by
  induction requests generalizing a issued with
  | nil => rfl
  | cons request requests ih =>
      have hrest := ih (hsound.after request) (hissued.after request)
        fun before next later hsplit => h (request :: before) next later (by rw [hsplit]; rfl)
      by_cases hforeign : request.Foreign issued
      · have hsame := after_of_foreign hsound hissued hforeign (h [] request requests rfl)
        have hfilter : renderer.withoutForeign issued (request :: requests) a =
            renderer.withoutForeign (issued ++ [(renderer.perform request a).value.1]) requests
              (a.after request) := if_pos hforeign
        have hstep : a.afterAll (request :: requests) = (a.after request).afterAll requests := rfl
        rw [hfilter, hstep, ← hrest, hsame]
      · have hfilter : renderer.withoutForeign issued (request :: requests) a =
            request :: renderer.withoutForeign (issued ++ [(renderer.perform request a).value.1])
              requests (a.after request) := if_neg hforeign
        rw [hfilter]
        exact hrest

-- A panel that stands in nothing but itself and is no window.
structure Orphan (a : Assembler) (panel : ContainerId) : Prop where
  made : panel.index < a.containers.size
  alone : ∀ home, a.Encloses home panel → home = panel
  notWaiting : panel ∉ a.pendingIds

namespace Orphan

variable {panel window id : ContainerId}

theorem after (h : Orphan a panel) (request : Request ContainerId GroupId) :
    Orphan (a.after request) panel := by
  refine ⟨Nat.lt_of_lt_of_le h.made (a.size_le_size_after request), ?_,
    notMem_pendingIds_after h.made h.notWaiting request⟩
  rintro home ⟨place, hslot⟩
  obtain hold | ⟨-, -, -, rfl⟩ := panel_after_iff.mp hslot
  · exact h.alone home ⟨place, hold⟩
  · exact absurd h.made (Nat.lt_irrefl _)

theorem of_beginPanel (hsound : Sound a) {parent : ContainerId}
    (hparent : a.containers.size ≤ parent.index) :
    Orphan (a.after (.beginPanel parent)) ⟨a.containers.size⟩ := by
  refine ⟨by rw [size_after_beginPanel]; exact Nat.lt_succ_self _, ?_, fun hwaiting => ?_⟩
  · rintro home ⟨place, hslot⟩
    obtain hold | ⟨hrequest, hhome, -⟩ := panel_after_iff.mp hslot
    · exact absurd (hsound.inRange hold) (Nat.lt_irrefl _)
    · obtain rfl := Request.beginPanel.inj hrequest
      exact congrArg ContainerId.mk (Nat.le_antisymm hhome hparent)
  · obtain ⟨⟨_, _, _, hrequest⟩, -⟩ | hsublist := a.pendingIds_after (.beginPanel parent)
    · cases hrequest
    · exact Nat.lt_irrefl _ (hsound.waiting _ (hsublist.subset hwaiting)).made

theorem eq_of_reaches (h : Orphan a panel) (hreaches : a.Reaches id panel) : id = panel := by
  induction hreaches using Relation.ReflTransGen.head_induction_on with
  | refl => rfl
  | head hencloses _ ih =>
      rw [ih] at hencloses
      exact h.alone _ hencloses

-- Nothing below the panel is below a window.
theorem not_reaches (h : Orphan a panel) (hsound : Sound a) (hroot : Root a window)
    (hne : window ≠ panel) (hpanel : a.Reaches panel id) : ¬ a.Reaches window id := by
  intro hwindow
  obtain hdown | hdown := hsound.total_of_reaches hwindow hpanel
  · exact hne (h.eq_of_reaches hdown)
  · exact hne (hroot.eq_of_reaches hdown).symm

end Orphan

theorem Orphan.afterAll {panel : ContainerId} (h : Orphan a panel)
    (requests : List (Request ContainerId GroupId)) : Orphan (a.afterAll requests) panel :=
  afterAll_induction (P := (Orphan · panel)) (fun request h => h.after request) h requests

-- No window that is shown has such a panel or one below it.
theorem Exhibits.not_reaches_of_orphan {requests : List (Request ContainerId GroupId)}
    {exhibits : List (Window × List ContainerId)} (h : Exhibits a requests exhibits)
    (hsound : Sound a) {panel id : ContainerId} (horphan : Orphan a panel) :
    ∀ exhibit ∈ exhibits, id ∈ exhibit.2 → ¬ (a.afterAll requests).Reaches panel id := by
  induction h with
  | done => exact fun exhibit hexhibit => absurd hexhibit List.not_mem_nil
  | other _ _ ih => exact ih (hsound.after _) (horphan.after _)
  | @shown a window shown visited rest exhibits hwindows hdisplays _ ih =>
      have hwaiting : window ∈ a.pendingIds := by
        obtain ⟨hafter, -⟩ | ⟨entry, hentry, hid, -⟩ := a.after_showWindow window
        · rw [hafter] at hwindows
          simpa using congrArg Array.size hwindows
        · exact List.mem_map.mpr ⟨entry, hentry, hid⟩
      refine List.forall_mem_cons.mpr ⟨fun hid hpanel => ?_, ih (hsound.after _) (horphan.after _)⟩
      have hne : window ≠ panel := by
        rintro rfl
        exact horphan.notWaiting hwaiting
      have hroot := (hsound.waiting window hwaiting).afterAll (.showWindow window :: rest)
      exact (horphan.afterAll _).not_reaches (hsound.afterAll _) hroot hne hpanel
        ((hdisplays.reaches hid).afterAll (.showWindow window :: rest))

-- Leaving out the foreign requests changes nothing, unless a radio button that names a container
-- nobody made gets into a group because the group has a button already. A panel that is put into
-- a container nobody made is in no window that is shown, and neither are the panels below it,
-- though a radio button that names one of them still joins a group that has a button.
theorem foreign_requests (requests : List (Request ContainerId GroupId)) :
    ((∀ before request later, requests = before ++ request :: later →
        (run before).InPlace request) →
      run (renderer.withoutForeign [] requests empty) = run requests) ∧
    ∀ before parent later, requests = before ++ .beginPanel parent :: later →
      .container parent ∉ renderer.replies before empty →
      ∀ panel, .container panel = (renderer.perform (.beginPanel parent) (run before)).value.1 →
      ∀ exhibits, Exhibits ((run before).after (.beginPanel parent)) later exhibits →
        ∀ exhibit ∈ exhibits, ∀ id, (run requests).Reaches panel id → id ∉ exhibit.2 := by
  refine ⟨fun h => afterAll_withoutForeign Sound.empty Issued.empty h, ?_⟩
  rintro before parent later rfl hparent panel hpanel exhibits hexhibits exhibit hexhibit id
    hreaches hid
  have hsound := sound_run before
  have hissued : Issued (run before) (renderer.replies before empty) :=
    Issued.empty.afterAll before
  have hle : (run before).containers.size ≤ parent.index :=
    Nat.le_of_not_lt fun hlt => hparent ((hissued.container_iff parent).mpr hlt)
  obtain rfl := Reply.container.inj hpanel
  rw [run, afterAll_append] at hreaches
  exact hexhibits.not_reaches_of_orphan (hsound.after _) (.of_beginPanel hsound hle) exhibit
    hexhibit hid hreaches

-- A radio button for a container that nobody made, in a group that has a button.
def straysIntoGroup : List (Request ContainerId GroupId) :=
  [.createWindow "W" 1 1, .beginRadioGroup, .addRadioButton ⟨0⟩ ⟨0⟩ "A",
    .addRadioButton ⟨0⟩ ⟨9⟩ "B", .showWindow ⟨0⟩]

theorem stray_button_shown :
    renderer.withoutForeign [] straysIntoGroup empty =
      [.createWindow "W" 1 1, .beginRadioGroup, .addRadioButton ⟨0⟩ ⟨0⟩ "A", .showWindow ⟨0⟩] ∧
    (run (renderer.withoutForeign [] straysIntoGroup empty)).windows =
      #[⟨"W", 1, 1, .flow, [.radioGroup ["A"]]⟩] ∧
    (run straysIntoGroup).windows = #[⟨"W", 1, 1, .flow, [.radioGroup ["A", "B"]]⟩] := by
  decide +kernel

end Assembler

end WindowDoc
