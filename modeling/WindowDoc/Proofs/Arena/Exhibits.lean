import WindowDoc.Proofs.Arena.Unfolding
import Mathlib.Data.List.Nodup

namespace WindowDoc.Assembler

def run (requests : List (Request ContainerId GroupId)) : Assembler := empty.afterAll requests

theorem run_concat (requests : List (Request ContainerId GroupId))
    (request : Request ContainerId GroupId) :
    run (requests ++ [request]) = (run requests).after request :=
  empty.afterAll_append requests [request]

-- The handle of a window that a run has created.
def Created (requests : List (Request ContainerId GroupId)) (window : ContainerId) : Prop :=
  ∃ before title width height after,
    requests = before ++ .createWindow title width height :: after ∧
      window = (renderer.createWindow title width height (run before)).value.1

-- The windows that a run shows, each with the containers whose content it consists of when it
-- is shown.
inductive Exhibits : Assembler → List (Request ContainerId GroupId) →
    List (Window × List ContainerId) → Prop where
  | done {a} : Exhibits a [] []
  | shown {a id window visited rest exhibits} :
      (a.after (.showWindow id)).windows = a.windows.push window →
      Displays a id visited (window.layout, window.children) →
      Exhibits (a.after (.showWindow id)) rest exhibits →
      Exhibits a (.showWindow id :: rest) ((window, visited) :: exhibits)
  | other {a request rest exhibits} : (a.after request).windows = a.windows →
      Exhibits (a.after request) rest exhibits → Exhibits a (request :: rest) exhibits

variable {a : Assembler} {window : ContainerId} {requests : List (Request ContainerId GroupId)}

theorem Exhibits.map_fst {exhibits : List (Window × List ContainerId)}
    (h : Exhibits a requests exhibits) :
    (a.afterAll requests).windows.toList = a.windows.toList ++ exhibits.map Prod.fst := by
  induction h with
  | done => exact (List.append_nil _).symm
  | shown hwindows _ _ ih =>
      refine ih.trans ?_
      rw [hwindows, Array.toList_push, List.append_assoc]
      rfl
  | other hwindows _ ih =>
      refine ih.trans ?_
      rw [hwindows]

theorem windows_after {request : Request ContainerId GroupId}
    (hshow : ∀ window, request ≠ .showWindow window) :
    (a.after request).windows = a.windows := by
  cases request with
  | createWindow title width height => rfl
  | beginPanel parent => rw [after_beginPanel]; rfl
  | showWindow window => exact absurd rfl (hshow window)
  | _ => exact (change_after (by simp) (by simp) (by simp)).windows_eq

-- A window that waits no longer will never wait again.
theorem notMem_pendingIds_after (hmade : window.index < a.containers.size)
    (h : window ∉ a.pendingIds) (request : Request ContainerId GroupId) :
    window ∉ (a.after request).pendingIds := by
  obtain ⟨-, hids⟩ | hsublist := a.pendingIds_after request
  · rw [hids, List.mem_append, List.mem_singleton, not_or]
    refine ⟨h, ?_⟩
    rintro rfl
    exact Nat.lt_irrefl _ hmade
  · exact fun hmem => h (hsublist.subset hmem)

-- What windows have shown so far: each that of a window of its own, which waits no longer.
structure Shown (a : Assembler) (past : List (List ContainerId)) : Prop where
  each : ∀ visited ∈ past, visited.Nodup ∧
    ∃ window, Root a window ∧ window ∉ a.pendingIds ∧ ∀ id ∈ visited, a.Reaches window id
  apart : past.Pairwise List.Disjoint

namespace Shown

variable {past : List (List ContainerId)} {visited : List ContainerId}

theorem after (h : Shown a past) (request : Request ContainerId GroupId) :
    Shown (a.after request) past := by
  refine ⟨fun visited hvisited => ?_, h.apart⟩
  obtain ⟨hnodup, window, hroot, hwaiting, hreaches⟩ := h.each visited hvisited
  exact ⟨hnodup, window, hroot.after request, notMem_pendingIds_after hroot.made hwaiting request,
    fun id hid => (hreaches id hid).after request⟩

-- A window that is shown has nothing in common with those before it: what leads to something of
-- both would lead to one of the windows.
theorem concat (h : Shown a past) (hsound : Sound a) (hwaiting : window ∈ a.pendingIds)
    (hgone : window ∉ (a.after (.showWindow window)).pendingIds)
    {content : Layout × List Widget} (hdisplays : Displays a window visited content) :
    Shown (a.after (.showWindow window)) (past ++ [visited]) := by
  have hroot := hsound.waiting window hwaiting
  have hafter := h.after (.showWindow window)
  refine ⟨List.forall_mem_append.mpr ⟨hafter.each, List.forall_mem_singleton.mpr ?_⟩, ?_⟩
  · exact ⟨hsound.nodup_of_displays hroot hdisplays, window, hroot.after _, hgone,
      fun id hid => (hdisplays.reaches hid).after _⟩
  · refine List.pairwise_append.mpr ⟨h.apart, List.pairwise_singleton _ _, ?_⟩
    intro earlier hearlier new hnew id hid hid'
    rw [List.mem_singleton.mp hnew] at hid'
    obtain ⟨-, window', hroot', hwaiting', hreaches⟩ := h.each earlier hearlier
    have hsame : window' = window := by
      obtain hdown | hdown := hsound.total_of_reaches (hreaches id hid) (hdisplays.reaches hid')
      · exact hroot.eq_of_reaches hdown
      · exact (hroot'.eq_of_reaches hdown).symm
    exact hwaiting' (hsame ▸ hwaiting)

theorem nodup_flatten (h : Shown a past) : past.flatten.Nodup :=
  List.nodup_flatten.mpr ⟨fun visited hvisited => (h.each visited hvisited).1, h.apart⟩

end Shown

theorem map_id_eraseP (window : ContainerId) :
    (a.pending.eraseP (·.id = window)).map PendingWindow.id = a.pendingIds.erase window := by
  rw [pendingIds, List.erase_eq_eraseP', List.eraseP_map]
  rfl

theorem Sound.notMem_after_showWindow (h : Sound a) :
    window ∉ (a.after (.showWindow window)).pendingIds := by
  obtain ⟨hafter, hnone⟩ | ⟨entry, -, -, hafter⟩ := a.after_showWindow window
  · rw [hafter]
    exact notMem_pendingIds hnone
  · rw [hafter, pendingIds, map_id_eraseP]
    exact h.apart.not_mem_erase

-- Every window that waits can be shown, and what all of them show is apart.
theorem exists_exhibits {past : List (List ContainerId)} (hsound : Sound a) (hshown : Shown a past)
    (requests : List (Request ContainerId GroupId)) :
    ∃ exhibits, Exhibits a requests exhibits ∧
      (past ++ exhibits.map Prod.snd).flatten.Nodup := by
  induction requests generalizing a past with
  | nil => exact ⟨[], .done, by simpa using hshown.nodup_flatten⟩
  | cons request requests ih =>
      by_cases hshow : ∃ window, request = .showWindow window
      · obtain ⟨window, rfl⟩ := hshow
        obtain ⟨hafter, -⟩ | ⟨entry, hentry, hid, hafter⟩ := a.after_showWindow window
        · obtain ⟨exhibits, hexhibits, hnodup⟩ := ih (hsound.after _) (hshown.after _)
          exact ⟨exhibits, .other (by rw [hafter]) hexhibits, hnodup⟩
        · have hwaiting : window ∈ a.pendingIds := List.mem_map.mpr ⟨entry, hentry, hid⟩
          obtain ⟨visited, hdisplays⟩ := hsound.exists_displays (hsound.waiting window hwaiting)
          obtain ⟨exhibits, hexhibits, hnodup⟩ := ih (hsound.after _)
            (hshown.concat hsound hwaiting hsound.notMem_after_showWindow hdisplays)
          rw [List.append_assoc] at hnodup
          exact ⟨(⟨entry.title, entry.width, entry.height, (a.assemble window.index).1,
            (a.assemble window.index).2⟩, visited) :: exhibits,
            .shown (by rw [hafter]) hdisplays hexhibits, hnodup⟩
      · obtain ⟨exhibits, hexhibits, hnodup⟩ := ih (hsound.after request) (hshown.after request)
        have hwindows := windows_after (a := a) fun window hrequest => hshow ⟨window, hrequest⟩
        exact ⟨exhibits, .other hwindows hexhibits, hnodup⟩

theorem sound_run (requests : List (Request ContainerId GroupId)) : Sound (run requests) :=
  Sound.empty.afterAll requests

theorem Created.root (h : Created requests window) : Root (run requests) window := by
  obtain ⟨before, title, width, height, later, rfl, rfl⟩ := h
  rw [run, afterAll_append]
  exact ((sound_run before).root_created title width height).afterAll later

-- Whatever is asked for, a panel stands in one place at most and a window stands nowhere, so that
-- every way down from a window ends. Each window that waits can therefore be unfolded, although
-- a panel may stand in itself, and nothing that is ever shown has a container twice.
theorem panels_of_run (requests : List (Request ContainerId GroupId)) :
    (∀ home place panel, (run requests).slot? home place = some (.panel panel) →
      panel.index < (run requests).containers.size ∧
      ∀ home' place', (run requests).slot? home' place' = some (.panel panel) →
        home' = home ∧ place' = place) ∧
    (∀ window, Created requests window →
      (∀ home place, (run requests).slot? home place ≠ some (.panel window)) ∧
      ∀ chain, (window :: chain).IsChain (run requests).Encloses →
        (window :: chain).Pairwise (fun outer inner => outer.index < inner.index) ∧
        ∀ id ∈ window :: chain, id.index < (run requests).containers.size) ∧
    (∀ entry ∈ (run requests).pending, ∃ visited,
      Displays (run requests) entry.id visited ((run requests).assemble entry.id.index)) ∧
    ∃ exhibits, Exhibits empty requests exhibits ∧
      exhibits.map Prod.fst = (run requests).windows.toList ∧
      (exhibits.map Prod.snd).flatten.Nodup := by
  have hsound := sound_run requests
  refine ⟨?_, ?_, ?_, ?_⟩
  · intro home place panel hslot
    exact ⟨hsound.inRange hslot, fun home' place' hslot' => hsound.once hslot' hslot⟩
  · intro window hcreated
    have hroot := hcreated.root
    exact ⟨hroot.free, fun chain hchain =>
      hsound.increasing_of_chain hroot.not_encloses_self hroot.made hchain⟩
  · intro entry hentry
    exact hsound.exists_displays (hsound.waiting entry.id (List.mem_map_of_mem hentry))
  · have hnone : Shown empty [] := ⟨by simp, .nil⟩
    obtain ⟨exhibits, hexhibits, hnodup⟩ := exists_exhibits Sound.empty hnone requests
    exact ⟨exhibits, hexhibits, hexhibits.map_fst.symm, hnodup⟩

-- A panel can be begun inside of itself.
example : (run [.beginPanel ⟨0⟩]).slot? ⟨0⟩ 0 = some (.panel ⟨0⟩) := by decide

end WindowDoc.Assembler
