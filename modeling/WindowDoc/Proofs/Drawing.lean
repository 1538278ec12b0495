import WindowDoc.Proofs.Arena.Exhibits

namespace WindowDoc

variable {σ κ γ : Type}

mutual

-- The calls that draw a widget into a container, with the handles that they are answered with.
def Widget.draw (r : Renderer σ κ γ) (home : κ) : Widget → σ → Logged σ
  | .button caption, state => r.addButton home caption state
  | .label text, state => r.addLabel home text state
  | .textField columns, state => r.addTextField home columns state
  | .panel layout children, state => do
      let (inside, state) ← r.beginPanel home state
      let state ← r.setLayout inside layout state
      Widget.drawAll r inside children state
  | .radioGroup labels, state => do
      let (group, state) ← r.beginRadioGroup state
      labels.foldlM (fun state label => r.addRadioButton group home label state) state

def Widget.drawAll (r : Renderer σ κ γ) (home : κ) : List Widget → σ → Logged σ
  | [], state => return state
  | widget :: rest, state => do
      let state ← widget.draw r home state
      Widget.drawAll r home rest state

end

-- The calls that draw a window and show it.
def Window.draw (r : Renderer σ κ γ) (w : Window) (state : σ) : Logged σ := do
  let (window, state) ← r.createWindow w.title w.width w.height state
  let state ← r.setLayout window w.layout state
  let state ← Widget.drawAll r window w.children state
  r.showWindow window state

-- Drawing with the handles at hand comes to the same as performing the statements of a document,
-- which name no handles.

section Perform

variable (r : Renderer σ κ γ)

theorem Scene.value_performAll_radios (state : σ) (home : κ) (outer : List κ) (group : γ)
    (labels : List String) :
    (Scene.performAll r ⟨state, home :: outer, some group⟩ (labels.map .radio)).value =
      ⟨(labels.foldlM (fun state label => r.addRadioButton group home label state) state).value,
        home :: outer, some group⟩ := by
  induction labels generalizing state with
  | nil => rfl
  | cons label labels ih => exact ih (r.addRadioButton group home label state).value

mutual

theorem Widget.value_draw (home : κ) (outer : List κ) : (widget : Widget) → (state : σ) →
    (Scene.performAll r ⟨state, home :: outer, none⟩ widget.events).value =
      ⟨(widget.draw r home state).value, home :: outer, none⟩
  | .button _, _ | .label _, _ | .textField _, _ => rfl
  | .panel layout children, state => by
      have hopening : (Scene.performAll r ⟨state, home :: outer, none⟩
          [.openPanel, .layout layout]).value =
          ⟨(r.setLayout (r.beginPanel home state).value.1 layout
              (r.beginPanel home state).value.2).value,
            (r.beginPanel home state).value.1 :: home :: outer, none⟩ := rfl
      rw [events, Scene.performAll_append, Scene.performAll_append, hopening,
        Widget.value_drawAll _ _ children]
      rfl
  | .radioGroup labels, state => by
      have hopening : (Scene.performAll r ⟨state, home :: outer, none⟩ [.openGroup]).value =
          ⟨(r.beginRadioGroup state).value.2, home :: outer,
            some (r.beginRadioGroup state).value.1⟩ := rfl
      rw [events, Scene.performAll_append, Scene.performAll_append, hopening,
        Scene.value_performAll_radios]
      rfl

theorem Widget.value_drawAll (home : κ) (outer : List κ) : (widgets : List Widget) → (state : σ) →
    (Scene.performAll r ⟨state, home :: outer, none⟩ (eventsAll widgets)).value =
      ⟨(drawAll r home widgets state).value, home :: outer, none⟩
  | [], _ => rfl
  | widget :: rest, state => by
      rw [eventsAll, Scene.performAll_append, Widget.value_draw home outer widget,
        Widget.value_drawAll home outer rest]
      rfl

end

theorem Window.value_draw (w : Window) (state : σ) :
    (w.draw r state).value = (Scene.performAll r (.start state) w.events).value.state := by
  have hopening : (Scene.performAll r (.start state)
      [.openWindow w.title w.width w.height, .layout w.layout]).value =
      ⟨(r.setLayout (r.createWindow w.title w.width w.height state).value.1 w.layout
          (r.createWindow w.title w.width w.height state).value.2).value,
        [(r.createWindow w.title w.width w.height state).value.1], none⟩ := rfl
  rw [events, Scene.performAll_append, Scene.performAll_append, hopening, Widget.value_drawAll]
  rfl

end Perform

namespace Assembler

theorem pendingNumbered_run (requests : List (Request ContainerId GroupId)) :
    (run requests).PendingNumbered := fun entry hentry =>
  ((sound_run requests).waiting entry.id (List.mem_map_of_mem hentry)).made

-- Whatever was asked for before, a window that is drawn call by call is the next one to be shown.
theorem windows_draw (requests : List (Request ContainerId GroupId)) (w : Window)
    (hfilled : Widget.GroupsFilledAll w.children) :
    (w.draw renderer (run requests)).value.windows = (run requests).windows.push w := by
  rw [w.value_draw, state_performAll_window (pendingNumbered_run requests) w hfilled]

-- A panel inside of itself, a stray button, a window that is shown and one that still waits.
def clutter : List (Request ContainerId GroupId) :=
  [.beginPanel ⟨0⟩, .addButton ⟨0⟩ "stray", .createWindow "Old" 1 2, .beginRadioGroup,
    .addRadioButton ⟨0⟩ ⟨1⟩ "A", .addRadioButton ⟨3⟩ ⟨1⟩ "B", .showWindow ⟨1⟩,
    .createWindow "Waiting" 3 4, .setLayout ⟨5⟩ .flow, .beginPanel ⟨9⟩]

def nested : Window :=
  ⟨"New", 5, 6, .flow, [.panel .flow [.panel .flow [], .radioGroup ["C", "D"]], .button "E"]⟩

theorem windows_draw_nested :
    Widget.GroupsFilledAll nested.children ∧
      (nested.draw renderer (run clutter)).value.windows = (run clutter).windows.push nested := by
  have hfilled : Widget.GroupsFilledAll nested.children := by
    simp [nested, Widget.GroupsFilledAll, Widget.GroupsFilled]
  exact ⟨hfilled, windows_draw clutter nested hfilled⟩

end Assembler

end WindowDoc
