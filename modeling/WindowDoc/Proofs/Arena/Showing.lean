import WindowDoc.Proofs.Arena.ForeignHandles

namespace WindowDoc

def Request.isCreateWindow {κ γ : Type} : Request κ γ → Bool
  | .createWindow .. => true
  | _ => false

-- The layout that a request sets for a container.
def Request.layoutFor? {κ γ : Type} [DecidableEq κ] (container : κ) : Request κ γ → Option Layout
  | .setLayout other layout => if other = container then some layout else none
  | _ => none

namespace Renderer

variable {σ κ γ : Type} [DecidableEq κ] [DecidableEq γ] (r : Renderer σ κ γ)

-- The requests of a run behind the one that hands a container out.
def sinceIssued (container : κ) : List (Request κ γ) → σ → List (Request κ γ)
  | [], _ => []
  | request :: requests, state =>
      let (reply, next) := (r.perform request state).value
      if reply = .container container then requests
      else sinceIssued container requests next

theorem sinceIssued_concat (container : κ) (requests : List (Request κ γ)) (request : Request κ γ)
    (state : σ) : r.sinceIssued container (requests ++ [request]) state =
      if .container container ∈ r.replies requests state
      then r.sinceIssued container requests state ++ [request] else [] := by
  induction requests generalizing state with
  | nil => exact ite_self []
  | cons first requests ih =>
      rw [List.cons_append]
      simp only [sinceIssued, replies, List.mem_cons]
      by_cases hfirst : (r.perform first state).value.1 = .container container
      · rw [if_pos hfirst, if_pos (.inl hfirst.symm), if_pos hfirst]
      · rw [if_neg hfirst, if_neg hfirst, ih]
        simp only [Ne.symm hfirst, false_or]

end Renderer

namespace Assembler

variable {a : Assembler} {requests : List (Request ContainerId GroupId)} {window : ContainerId}
  {title : String} {width height : Int32}

-- A window that a run has created with a title and a size, and has not shown since then.
def Waits (requests : List (Request ContainerId GroupId)) (window : ContainerId) (title : String)
    (width height : Int32) : Prop :=
  ∃ before later, requests = before ++ .createWindow title width height :: later ∧
    window = (renderer.createWindow title width height (run before)).value.1 ∧
    .showWindow window ∉ later

theorem waits_concat_iff (request : Request ContainerId GroupId) :
    Waits (requests ++ [request]) window title width height ↔
      Waits requests window title width height ∧ request ≠ .showWindow window ∨
        request = .createWindow title width height ∧
          window = ⟨(run requests).containers.size⟩ := by
  constructor
  · rintro ⟨before, later, hsplit, hwindow, hlater⟩
    obtain rfl | ⟨later, last, rfl⟩ := later.eq_nil_or_concat
    · obtain ⟨rfl, hrequest⟩ := List.append_inj' hsplit rfl
      exact .inr ⟨List.singleton_inj.mp hrequest, hwindow⟩
    · rw [List.concat_eq_append, ← List.cons_append, ← List.append_assoc] at hsplit
      obtain ⟨rfl, hrequest⟩ := List.append_inj' hsplit rfl
      obtain rfl := List.singleton_inj.mp hrequest
      rw [List.concat_eq_append, List.mem_append, List.mem_singleton, not_or] at hlater
      exact .inl ⟨⟨before, later, rfl, hwindow, hlater.1⟩, Ne.symm hlater.2⟩
  · rintro (⟨⟨before, later, rfl, hwindow, hlater⟩, hrequest⟩ | ⟨rfl, hwindow⟩)
    · refine ⟨before, later ++ [request], by simp, hwindow, ?_⟩
      rw [List.mem_append, List.mem_singleton, not_or]
      exact ⟨hlater, hrequest.symm⟩
    · exact ⟨requests, [], rfl, hwindow, List.not_mem_nil⟩

-- What a request does to the windows that wait and to those that are shown.
inductive Turn (a : Assembler) : Request ContainerId GroupId → Assembler → Prop where
  | created {title : String} {width height : Int32} {b : Assembler} :
      b.pending = a.pending ++ [⟨⟨a.containers.size⟩, title, width, height⟩] →
      b.windows = a.windows → Turn a (.createWindow title width height) b
  | shown {entry : PendingWindow} : entry ∈ a.pending →
      Turn a (.showWindow entry.id) { a with
        pending := a.pending.eraseP (·.id = entry.id)
        windows := a.windows.push ⟨entry.title, entry.width, entry.height,
          (a.assemble entry.id.index).1, (a.assemble entry.id.index).2⟩ }
  | ignored {window : ContainerId} : window ∉ a.pendingIds → Turn a (.showWindow window) a
  | other {request : Request ContainerId GroupId} {b : Assembler} : request.isCreateWindow = false →
      (∀ window, request ≠ .showWindow window) → b.pending = a.pending → b.windows = a.windows →
      Turn a request b

theorem turn_after (request : Request ContainerId GroupId) : a.Turn request (a.after request) := by
  cases request with
  | createWindow title width height => exact .created rfl rfl
  | beginPanel parent =>
      refine .other rfl nofun ?_ (windows_after nofun)
      rw [after_beginPanel]
      rfl
  | showWindow window =>
      obtain ⟨hafter, hnone⟩ | ⟨entry, hentry, rfl, hafter⟩ := a.after_showWindow window
      · rw [hafter]
        exact .ignored (notMem_pendingIds hnone)
      · rw [hafter]
        exact .shown hentry
  | _ =>
      refine .other rfl nofun ?_ (windows_after nofun)
      exact (change_after (by simp) (by simp) (by simp)).pending_eq

namespace Turn

variable {b : Assembler} {request : Request ContainerId GroupId}

theorem mem_pending_iff (h : Turn a request b) (hapart : a.pendingIds.Nodup)
    (entry : PendingWindow) :
    entry ∈ b.pending ↔
      entry ∈ a.pending ∧ request ≠ .showWindow entry.id ∨
        request = .createWindow entry.title entry.width entry.height ∧
          entry.id = ⟨a.containers.size⟩ := by
  cases h with
  | created hpending _ =>
      rw [hpending, List.mem_append, List.mem_singleton]
      refine or_congr ⟨fun hold => ⟨hold, nofun⟩, And.left⟩ ⟨?_, ?_⟩
      · rintro rfl
        exact ⟨rfl, rfl⟩
      · rintro ⟨hrequest, hid⟩
        obtain ⟨id, title, width, height⟩ := entry
        cases hrequest
        obtain rfl : id = ⟨a.containers.size⟩ := hid
        rfl
  | @shown other hother =>
      rw [or_iff_left (fun hnew => nomatch hnew.1)]
      constructor
      · intro hleft
        have hid : entry.id ∈ a.pendingIds.erase other.id := by
          rw [← map_id_eraseP]
          exact List.mem_map_of_mem hleft
        refine ⟨List.mem_of_mem_eraseP hleft, fun hsame => ?_⟩
        rw [Request.showWindow.inj hsame] at hid
        exact hapart.not_mem_erase hid
      · rintro ⟨hold, hne⟩
        refine (List.mem_eraseP_of_neg ?_).mpr hold
        intro hid
        exact hne (congrArg Request.showWindow (of_decide_eq_true hid).symm)
  | ignored hnone =>
      rw [or_iff_left (fun hnew => nomatch hnew.1)]
      refine (and_iff_left_of_imp fun hold hrequest => ?_).symm
      cases hrequest
      exact hnone (List.mem_map_of_mem hold)
  | other hcreate hshow hpending _ =>
      rw [hpending, and_iff_left (hshow entry.id), or_iff_left]
      rintro ⟨rfl, -⟩
      cases hcreate

theorem size_eq (h : Turn a request b) : b.windows.size + b.pending.length =
    a.windows.size + a.pending.length + [request].countP Request.isCreateWindow := by
  cases h with
  | created hpending hwindows =>
      rw [hpending, hwindows, List.length_append, ← Nat.add_assoc]
      rfl
  | @shown entry hentry =>
      have hlength : (a.pending.eraseP (·.id = entry.id)).length = a.pending.length - 1 :=
        List.length_eraseP_of_mem hentry (by simp)
      have hpos := List.length_pos_of_mem hentry
      have hnone : [Request.showWindow (γ := GroupId) entry.id].countP Request.isCreateWindow = 0 :=
        rfl
      rw [Array.size_push, hlength, hnone]
      omega
  | ignored => rfl
  | other hcreate _ hpending hwindows =>
      rw [hpending, hwindows, List.countP_singleton, hcreate]
      rfl

theorem windows_grow (h : Turn a request b) : a.windows.toList <+: b.windows.toList := by
  cases h with
  | created _ hwindows | other _ _ _ hwindows =>
      simp only [hwindows, List.prefix_rfl]
  | shown _ =>
      rw [Array.toList_push]
      exact List.prefix_append ..
  | ignored => exact List.prefix_rfl

end Turn

-- The windows that are pending are those that wait.
theorem mem_pending_run_iff (requests : List (Request ContainerId GroupId))
    (entry : PendingWindow) : entry ∈ (run requests).pending ↔
      Waits requests entry.id entry.title entry.width entry.height := by
  induction requests using List.reverseRecOn with
  | nil =>
      refine iff_of_false List.not_mem_nil ?_
      rintro ⟨before, later, hsplit, -⟩
      simp at hsplit
  | append_singleton requests request ih =>
      rw [run_concat, (turn_after request).mem_pending_iff (sound_run requests).apart, ih,
        waits_concat_iff]

theorem size_windows_run (requests : List (Request ContainerId GroupId)) :
    (run requests).windows.size + (run requests).pending.length =
      requests.countP Request.isCreateWindow := by
  induction requests using List.reverseRecOn with
  | nil => rfl
  | append_singleton requests request ih =>
      rw [run_concat, (turn_after request).size_eq, ih, List.countP_append]

theorem windows_grow_afterAll (requests : List (Request ContainerId GroupId)) :
    a.windows.toList <+: (a.afterAll requests).windows.toList :=
  afterAll_induction (P := fun b => a.windows.toList <+: b.windows.toList)
    (fun request h => h.trans (turn_after request).windows_grow) List.prefix_rfl requests

-- The layout of a container, which is the flow layout as long as there is no such container.
def layoutOf (a : Assembler) (id : ContainerId) : Layout :=
  a.containers[id.index]?.elim .flow Container.layout

-- The last one of the layouts that are set for a container after it has been handed out.
def lastLayout (requests : List (Request ContainerId GroupId)) (id : ContainerId) : Layout :=
  ((renderer.sinceIssued id requests empty).filterMap (Request.layoutFor? id)).getLast?.getD .flow

theorem layoutOf_of_getElem? {id : ContainerId} {box : Container}
    (hbox : a.containers[id.index]? = some box) : a.layoutOf id = box.layout := by
  rw [layoutOf, hbox]
  rfl

theorem layoutOf_of_le {id : ContainerId} (h : a.containers.size ≤ id.index) :
    a.layoutOf id = .flow := by
  rw [layoutOf, Array.getElem?_eq_none_iff.mpr h]
  rfl

theorem layoutOf_congr {b : Assembler} (h : b.containers = a.containers) :
    b.layoutOf = a.layoutOf := by
  unfold layoutOf
  rw [h]

theorem layoutOf_addContainer (id : ContainerId) :
    a.addContainer.2.layoutOf id = a.layoutOf id := by
  obtain hsame | ⟨hnone, hnew⟩ := a.getElem?_addContainer id.index
  · rw [layoutOf, layoutOf, hsame]
  · rw [layoutOf, layoutOf, hnone, hnew]
    rfl

theorem layoutOf_push (home : ContainerId) (slot : Slot) (id : ContainerId) :
    (a.update home (·.push slot)).layoutOf id = a.layoutOf id := by
  rw [layoutOf, layoutOf, update, Array.getElem?_modify]
  split
  · cases a.containers[id.index]? <;> rfl
  · rfl

theorem layoutOf_setLayout (home : ContainerId) (layout : Layout) (id : ContainerId) :
    (a.update home fun box => { box with layout }).layoutOf id =
      if home = id ∧ home.index < a.containers.size then layout else a.layoutOf id := by
  by_cases hid : home = id
  · subst hid
    rw [layoutOf, layoutOf, update, Array.getElem?_modify, if_pos rfl]
    cases hbox : a.containers[home.index]? with
    | none => simp [Nat.not_lt_of_le (Array.getElem?_eq_none_iff.mp hbox)]
    | some box => simp [(Array.getElem?_eq_some_iff.mp hbox).1]
  · have hindex : home.index ≠ id.index := fun h => hid (congrArg ContainerId.mk h)
    rw [layoutOf, layoutOf, update, Array.getElem?_modify, if_neg hindex]
    simp [hid]

-- What a request sets counts for a container that there is.
theorem layoutOf_after (request : Request ContainerId GroupId) (id : ContainerId) :
    (a.after request).layoutOf id =
      if id.index < a.containers.size then (request.layoutFor? id).getD (a.layoutOf id)
      else a.layoutOf id := by
  have hsame {b : Assembler} (hb : b.layoutOf id = a.layoutOf id) : b.layoutOf id =
      if id.index < a.containers.size then (none : Option Layout).getD (a.layoutOf id)
      else a.layoutOf id := hb.trans (ite_self _).symm
  cases request with
  | setLayout home layout =>
      rw [after_setLayout, layoutOf_setLayout, Request.layoutFor?]
      by_cases hid : home = id
      · subst hid
        simp
      · simp [hid]
  | createWindow title width height =>
      exact hsame ((congrFun (layoutOf_congr rfl) id).trans (layoutOf_addContainer id))
  | addButton home label | addLabel home text | addTextField home columns =>
      exact hsame ((congrArg (layoutOf · id) (value_addSlot_eq home _)).trans (layoutOf_push ..))
  | beginPanel parent =>
      apply hsame
      rw [after_beginPanel, layoutOf_push]
      exact layoutOf_addContainer id
  | beginRadioGroup => exact hsame (congrFun (layoutOf_congr rfl) id)
  | addRadioButton mark home label =>
      apply hsame
      obtain hafter | ⟨labels, -, -, hafter⟩ | ⟨-, -, hafter⟩ :=
        a.after_addRadioButton mark home label
      · rw [hafter]
      · rw [hafter]
        exact congrFun (layoutOf_congr rfl) id
      · rw [hafter, layoutOf_push]
        exact congrFun (layoutOf_congr rfl) id
  | showWindow window =>
      exact hsame (congrFun (layoutOf_congr (a.containers_after_showWindow window)) id)

theorem lastLayout_concat (requests : List (Request ContainerId GroupId))
    (request : Request ContainerId GroupId) (id : ContainerId) :
    lastLayout (requests ++ [request]) id =
      if .container id ∈ renderer.replies requests empty
      then (request.layoutFor? id).getD (lastLayout requests id) else .flow := by
  rw [lastLayout, renderer.sinceIssued_concat]
  split
  · rw [List.filterMap_append, List.getLast?_append, Option.getD_or]
    cases hlayout : request.layoutFor? id <;> simp [hlayout, lastLayout]
  · rfl

-- The layout of a container is the one that was set last since it has been there.
theorem layoutOf_run (requests : List (Request ContainerId GroupId)) (id : ContainerId) :
    (run requests).layoutOf id = lastLayout requests id := by
  induction requests using List.reverseRecOn with
  | nil => rfl
  | append_singleton requests request ih =>
      have hissued : .container id ∈ renderer.replies requests empty ↔
          id.index < (run requests).containers.size :=
        (Issued.empty.afterAll requests).container_iff id
      rw [run_concat, layoutOf_after, lastLayout_concat, if_congr hissued rfl rfl, ih]
      split
      · rfl
      · rename_i hout
        rw [← ih]
        exact layoutOf_of_le (Nat.le_of_not_lt hout)

-- Whatever is asked for, a window is shown when it has been created and not been shown before, and
-- then it is as it has been described until then. What has been shown stays as it is.
theorem windows_of_run (requests : List (Request ContainerId GroupId)) :
    (run requests).windows.size + (run requests).pending.length =
        requests.countP Request.isCreateWindow ∧
    (run requests).pendingIds.Nodup ∧
    (∀ more, (run requests).windows.toList <+: (run (requests ++ more)).windows.toList) ∧
    (∀ id box, (run requests).containers[id.index]? = some box →
      box.layout = lastLayout requests id) ∧
    ∀ request,
      (∃ window title width height visited children, request = .showWindow window ∧
        Waits requests window title width height ∧
        Displays (run requests) window visited (lastLayout requests window, children) ∧
        (run (requests ++ [request])).windows = (run requests).windows.push
          ⟨title, width, height, lastLayout requests window, children⟩) ∨
      (run (requests ++ [request])).windows = (run requests).windows ∧
        ∀ window, request = .showWindow window →
          (∀ title width height, ¬ Waits requests window title width height) ∧
          run (requests ++ [request]) = run requests := by
  have hsound := sound_run requests
  refine ⟨size_windows_run requests, hsound.apart, fun more => ?_, fun id box hbox => ?_,
    fun request => ?_⟩
  · rw [run, run, afterAll_append]
    exact windows_grow_afterAll more
  · rw [← layoutOf_run, layoutOf_of_getElem? hbox]
  · rw [run_concat]
    have hturn := (run requests).turn_after request
    generalize (run requests).after request = next at hturn
    cases hturn with
    | @shown entry hentry =>
        have hwaits := (mem_pending_run_iff requests entry).mp hentry
        have hroot := hsound.waiting entry.id (List.mem_map_of_mem hentry)
        obtain ⟨visited, hdisplays⟩ := hsound.exists_displays hroot
        have hlayout :
            ((run requests).assemble entry.id.index).1 = lastLayout requests entry.id := by
          have hbox := Array.getElem?_eq_getElem hroot.made
          rw [assemble_of_getElem? hbox, ← layoutOf_run, layoutOf_of_getElem? hbox]
        generalize (run requests).assemble entry.id.index = content at hdisplays hlayout ⊢
        obtain ⟨layout, children⟩ := content
        obtain rfl : layout = lastLayout requests entry.id := hlayout
        exact .inl ⟨_, _, _, _, visited, children, rfl, hwaits, hdisplays, rfl⟩
    | @ignored window hnone =>
        refine .inr ⟨rfl, ?_⟩
        rintro _ ⟨rfl⟩
        refine ⟨fun title width height hwaits => ?_, rfl⟩
        exact hnone (List.mem_map_of_mem ((mem_pending_run_iff requests ⟨_, _, _, _⟩).mpr hwaits))
    | created _ hwindows =>
        refine .inr ⟨hwindows, fun window hrequest => ?_⟩
        cases hrequest
    | other _ hshow _ hwindows =>
        exact .inr ⟨hwindows, fun window hrequest => absurd hrequest (hshow window)⟩

end Assembler

end WindowDoc
