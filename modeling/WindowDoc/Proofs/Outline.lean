import WindowDoc.Proofs.Simulation
import WindowDoc.Window

namespace WindowDoc

-- What a window says about how it is drawn: how deep its panels nest, the statements that
-- describe it in order, and the calls that these lead to.

namespace Widget

mutual

def depth : Widget → Nat
  | button _ | label _ | textField _ | radioGroup _ => 0
  | panel _ children => depthAll children + 1

def depthAll : List Widget → Nat
  | [] => 0
  | widget :: rest => max widget.depth (depthAll rest)

end

mutual

-- How many containers a widget needs.
def panels : Widget → Nat
  | button _ | label _ | textField _ | radioGroup _ => 0
  | panel _ children => panelsAll children + 1

def panelsAll : List Widget → Nat
  | [] => 0
  | widget :: rest => widget.panels + panelsAll rest

end

mutual

def groups : Widget → Nat
  | button _ | label _ | textField _ => 0
  | panel _ children => groupsAll children
  | radioGroup _ => 1

def groupsAll : List Widget → Nat
  | [] => 0
  | widget :: rest => widget.groups + groupsAll rest

end

mutual

def events : Widget → List Event
  | button caption => [.button caption]
  | label text => [.label text]
  | textField columns => [.textField columns]
  | panel layout children => [.openPanel, .layout layout] ++ eventsAll children ++ [.closePanel]
  | radioGroup labels => [.openGroup] ++ labels.map .radio ++ [.closeGroup]

def eventsAll : List Widget → List Event
  | [] => []
  | widget :: rest => widget.events ++ eventsAll rest

end

mutual

-- The calls that put a widget into the container `home`, where `made` containers and `begun`
-- groups were numbered before.
def calls (home : ContainerId) (made begun : Nat) : Widget → List Call
  | button caption => [.addButton home caption]
  | label text => [.addLabel home text]
  | textField columns => [.addTextField home columns]
  | panel layout children =>
      [.beginPanel home ⟨made⟩, .setLayout ⟨made⟩ layout]
        ++ callsAll ⟨made⟩ (made + 1) begun children
  | radioGroup labels =>
      [.beginRadioGroup ⟨begun⟩] ++ labels.map (.addRadioButton ⟨begun⟩ home)

def callsAll (home : ContainerId) (made begun : Nat) : List Widget → List Call
  | [] => []
  | widget :: rest =>
      widget.calls home made begun
        ++ callsAll home (made + widget.panels) (begun + widget.groups) rest

end

end Widget

namespace Window

def depth (w : Window) : Nat := Widget.depthAll w.children

def events (w : Window) : List Event :=
  [.openWindow w.title w.width w.height, .layout w.layout] ++ Widget.eventsAll w.children
    ++ [.showWindow]

def calls (w : Window) (made begun : Nat) : List Call :=
  [.createWindow ⟨made⟩ w.title w.width w.height, .setLayout ⟨made⟩ w.layout]
    ++ Widget.callsAll ⟨made⟩ (made + 1) begun w.children ++ [.showWindow ⟨made⟩]

end Window

namespace Call

-- The container that a call makes.
def container? : Call → Option ContainerId
  | createWindow id .. | beginPanel _ id => some id
  | _ => none

-- The group that a call makes.
def group? : Call → Option GroupId
  | beginRadioGroup id => some id
  | _ => none

end Call

-- Containers are numbered in the order of the calls that make them, and so are groups.

mutual

theorem Widget.containers_calls (home : ContainerId) (made begun : Nat) : (widget : Widget) →
    (widget.calls home made begun).filterMap Call.container? =
      (List.range' made widget.panels).map ContainerId.mk
  | .button _ | .label _ | .textField _ => rfl
  | .panel layout children => by
      rw [calls, List.filterMap_append, Widget.containers_callsAll, panels, List.range'_succ]
      rfl
  | .radioGroup labels => by
      simp [calls, panels, Call.container?]

theorem Widget.containers_callsAll (home : ContainerId) (made begun : Nat) :
    (widgets : List Widget) →
    (callsAll home made begun widgets).filterMap Call.container? =
      (List.range' made (panelsAll widgets)).map ContainerId.mk
  | [] => rfl
  | widget :: rest => by
      rw [callsAll, List.filterMap_append, Widget.containers_calls, Widget.containers_callsAll,
        panelsAll, ← List.map_append, List.range'_append_1]

end

mutual

theorem Widget.groups_calls (home : ContainerId) (made begun : Nat) : (widget : Widget) →
    (widget.calls home made begun).filterMap Call.group? =
      (List.range' begun widget.groups).map GroupId.mk
  | .button _ | .label _ | .textField _ => rfl
  | .panel layout children => by
      rw [calls, List.filterMap_append, Widget.groups_callsAll, groups]
      rfl
  | .radioGroup labels => by
      simp [calls, groups, Call.group?]

theorem Widget.groups_callsAll (home : ContainerId) (made begun : Nat) :
    (widgets : List Widget) →
    (callsAll home made begun widgets).filterMap Call.group? =
      (List.range' begun (groupsAll widgets)).map GroupId.mk
  | [] => rfl
  | widget :: rest => by
      rw [callsAll, List.filterMap_append, Widget.groups_calls, Widget.groups_callsAll,
        groupsAll, ← List.map_append, List.range'_append_1]

end

theorem Window.containers_calls (w : Window) (made begun : Nat) :
    (w.calls made begun).filterMap Call.container? =
      (List.range' made (Widget.panelsAll w.children + 1)).map ContainerId.mk := by
  rw [calls, List.filterMap_append, List.filterMap_append, Widget.containers_callsAll,
    List.range'_succ]
  exact List.append_nil _

theorem Window.groups_calls (w : Window) (made begun : Nat) :
    (w.calls made begun).filterMap Call.group? =
      (List.range' begun (Widget.groupsAll w.children)).map GroupId.mk := by
  rw [calls, List.filterMap_append, List.filterMap_append, Widget.groups_callsAll]
  exact List.append_nil _

namespace Recording

def extend (recording : Recording) (calls : List Call) (panels groups : Nat) : Recording :=
  ⟨recording.calls ++ calls.toArray, recording.containers + panels, recording.groups + groups⟩

theorem extend_nil (recording : Recording) : recording.extend [] 0 0 = recording := by
  simp [extend]

theorem extend_extend (recording : Recording) (calls more : List Call) (p q g h : Nat) :
    (recording.extend calls p g).extend more q h =
      recording.extend (calls ++ more) (p + q) (g + h) := by
  simp [extend, Nat.add_assoc]

theorem extend_singleton (recording : Recording) (call : Call) (p g : Nat) :
    recording.extend [call] p g =
      ⟨recording.calls.push call, recording.containers + p, recording.groups + g⟩ := by
  simp [extend]

theorem extend_pair (recording : Recording) (first second : Call) (p g : Nat) :
    recording.extend [first, second] p g =
      ⟨(recording.calls.push first).push second, recording.containers + p,
        recording.groups + g⟩ := by
  have h := extend_extend recording [first] [second] p 0 g 0
  rw [extend_singleton, extend_singleton] at h
  exact h.symm

-- The radio buttons of one group, in the container that is innermost.
theorem value_performAll_radio (recording : Recording) (home : ContainerId)
    (outer : List ContainerId) (group : GroupId) (labels : List String) :
    (Scene.performAll renderer ⟨recording, home :: outer, some group⟩ (labels.map .radio)).value =
      ⟨recording.extend (labels.map (.addRadioButton group home)) 0 0, home :: outer,
        some group⟩ := by
  induction labels generalizing recording with
  | nil =>
      rw [List.map_nil, List.map_nil, extend_nil]
      rfl
  | cons label labels ih =>
      have hfirst := extend_singleton recording (.addRadioButton group home label) 0 0
      have hrest := ih (recording.extend [.addRadioButton group home label] 0 0)
      rw [extend_extend] at hrest
      rw [hfirst] at hrest
      exact hrest

mutual

-- Recording a widget's statements appends its calls.
theorem value_performAll_events (recording : Recording) (home : ContainerId)
    (outer : List ContainerId) : (widget : Widget) →
    (Scene.performAll renderer ⟨recording, home :: outer, none⟩ widget.events).value =
      ⟨recording.extend (widget.calls home recording.containers recording.groups) widget.panels
        widget.groups, home :: outer, none⟩
  | .button _ | .label _ | .textField _ => by
      rw [Widget.calls, Widget.panels, Widget.groups, extend_singleton]
      rfl
  | .panel layout children => by
      have hopening : (Scene.performAll renderer ⟨recording, home :: outer, none⟩
          [.openPanel, .layout layout]).value =
          ⟨recording.extend [.beginPanel home ⟨recording.containers⟩,
              .setLayout ⟨recording.containers⟩ layout] 1 0,
            ⟨recording.containers⟩ :: home :: outer, none⟩ := by
        rw [extend_pair]
        rfl
      rw [Widget.events, Scene.performAll_append, Scene.performAll_append, hopening,
        value_performAll_eventsAll _ _ (home :: outer) children, extend_extend, Nat.add_comm 1,
        Nat.zero_add]
      rfl
  | .radioGroup labels => by
      have hopening : (Scene.performAll renderer ⟨recording, home :: outer, none⟩
          [.openGroup]).value =
          ⟨recording.extend [.beginRadioGroup ⟨recording.groups⟩] 0 1, home :: outer,
            some ⟨recording.groups⟩⟩ := by
        rw [extend_singleton]
        rfl
      rw [Widget.events, Scene.performAll_append, Scene.performAll_append, hopening,
        value_performAll_radio, extend_extend]
      rfl

theorem value_performAll_eventsAll (recording : Recording) (home : ContainerId)
    (outer : List ContainerId) : (widgets : List Widget) →
    (Scene.performAll renderer ⟨recording, home :: outer, none⟩ (Widget.eventsAll widgets)).value =
      ⟨recording.extend (Widget.callsAll home recording.containers recording.groups widgets)
        (Widget.panelsAll widgets) (Widget.groupsAll widgets), home :: outer, none⟩
  | [] => by
      rw [Widget.callsAll, Widget.panelsAll, Widget.groupsAll, extend_nil]
      rfl
  | widget :: rest => by
      rw [Widget.eventsAll, Scene.performAll_append,
        value_performAll_events recording home outer widget,
        value_performAll_eventsAll _ home outer rest, extend_extend]
      rfl

end

theorem state_performAll_window (recording : Recording) (w : Window) :
    (Scene.performAll renderer (.start recording) w.events).value.state =
      recording.extend (w.calls recording.containers recording.groups)
        (Widget.panelsAll w.children + 1) (Widget.groupsAll w.children) := by
  have hopening : (Scene.performAll renderer (.start recording)
      [.openWindow w.title w.width w.height, .layout w.layout]).value =
      ⟨recording.extend [.createWindow ⟨recording.containers⟩ w.title w.width w.height,
          .setLayout ⟨recording.containers⟩ w.layout] 1 0,
        [⟨recording.containers⟩], none⟩ := by
    rw [extend_pair]
    rfl
  have hclosing (drawn : Recording) : (Scene.performAll renderer
      ⟨drawn, [⟨recording.containers⟩], none⟩ [.showWindow]).value.state =
      drawn.extend [.showWindow ⟨recording.containers⟩] 0 0 := by
    rw [extend_singleton]
    rfl
  rw [Window.events, Scene.performAll_append, Scene.performAll_append, hopening,
    value_performAll_eventsAll, hclosing, extend_extend, extend_extend, Nat.add_comm 1,
    Nat.zero_add]
  rfl

end Recording

end WindowDoc
