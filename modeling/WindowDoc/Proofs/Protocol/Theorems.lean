import WindowDoc.Proofs.CallsBeforeFault
import WindowDoc.Proofs.Protocol.Window

namespace WindowDoc

open Grammar Protocol

-- The calls of a document are those for a window, or some first ones of them if there is a fault
-- that cuts them off.
theorem exists_window_calls (limit : Nat) (source : String) : ∃ w : Window,
    match (recorded limit source).result with
    | .ok () => (recorded limit source).state.calls.toList = w.calls 0 0
    | .error _ => ∃ more,
        w.calls 0 0 = (recorded limit source).state.calls.toList ++ more ++ [.showWindow ⟨0⟩] := by
  have hresult : (recorded limit source).result = (Reading.ofText limit source).result := by
    rw [recorded, result_parse]
  rw [hresult]
  cases hend : (Reading.ofText limit source).result with
  | ok _ =>
      obtain ⟨ls, hbegins, hderivable⟩ := (Reading.result_ofText_eq_ok_iff limit source).mp hend
      obtain ⟨d, htokens, hdepth⟩ := hderivable.exists_document
      exact ⟨d.window, calls_recorded (Reading.events_ofText hbegins htokens hdepth)⟩
  | error fault =>
      obtain ⟨made, ⟨left, hsource⟩, ⟨place, depth, hwalk⟩, -⟩ := exists_made hend
      obtain ⟨-, d, more, -, htokens, -⟩ := exists_completion hsource hwalk
      have hbegin : made.map Lexeme.token <+: d.tokens := by
        rw [htokens, List.map_append]
        exact List.prefix_append _ _
      obtain ⟨done, rest, hscript, -, hcalls⟩ := hwalk.exists_script hbegin
      refine ⟨d.window, rest.filterMap Prod.snd, ?_⟩
      rw [← d.filterMap_script, hscript, List.filterMap_append, List.filterMap_append, recorded,
        value_parse_streaming, state_parseStreaming, Reading.ofText, hcalls]
      rfl

-- What every renderer can rely on, whether the document is accepted or not. The calls that were
-- recorded are those that any renderer gets, with the handles that it answers with.
theorem parse_orderly (limit : Nat) (source : String) :
    Orderly (recorded limit source).state.calls.toList ∧
    (match (recorded limit source).result with
      | .ok () => ∃ window title width height middle,
          (recorded limit source).state.calls.toList =
            .createWindow window title width height :: middle ++ [.showWindow window] ∧
          ∀ other, .showWindow other ∉ middle
      | .error _ => ∀ window, .showWindow window ∉ (recorded limit source).state.calls.toList) ∧
    ∀ {σ κ γ : Type} (r : Renderer σ κ γ) (state : σ),
      (parse r ⟨.streaming, limit⟩ source state).value =
        ⟨(recorded limit source).result, ((recorded limit source).state.replay r state).value⟩ := by
  obtain ⟨w, hcalls⟩ := exists_window_calls limit source
  obtain ⟨middle, hwindow, hnone⟩ : ∃ middle, w.calls 0 0 =
      .createWindow ⟨0⟩ w.title w.width w.height :: middle ++ [.showWindow ⟨0⟩] ∧
        ∀ other, .showWindow other ∉ middle := by
    refine ⟨_, rfl, fun other => ?_⟩
    simp [Widget.showWindow_notMem_callsAll]
  have horderly := w.orderly_calls 0 0
  refine ⟨?_, ?_, fun r state => ?_⟩
  · cases hresult : (recorded limit source).result with
    | ok _ =>
        rw [hresult] at hcalls
        rwa [hcalls]
    | error fault =>
        rw [hresult] at hcalls
        obtain ⟨more, hcalls⟩ := hcalls
        rw [hcalls] at horderly
        exact horderly.of_append.of_append
  · cases hresult : (recorded limit source).result with
    | ok _ =>
        rw [hresult] at hcalls
        exact ⟨⟨0⟩, w.title, w.width, w.height, middle, hcalls.trans hwindow, hnone⟩
    | error fault =>
        rw [hresult] at hcalls
        obtain ⟨more, hcalls⟩ := hcalls
        obtain ⟨hfront, -⟩ := List.append_inj' (hcalls.symm.trans hwindow) rfl
        intro other hother
        have hmem := List.mem_append_left more hother
        rw [hfront] at hmem
        simp [hnone] at hmem
  · rw [recorded, value_parse_streaming, value_parse_streaming, replay_parseStreaming]
    rfl

end WindowDoc
