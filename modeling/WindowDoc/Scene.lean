import WindowDoc.Event
import WindowDoc.Renderer

namespace WindowDoc

-- A renderer in the course of a document: its state, the handles of the containers that are
-- open, innermost first, and that of the group that is open.
structure Scene (σ κ γ : Type) where
  state : σ
  containers : List κ
  group : Option γ

namespace Scene

variable {σ κ γ : Type}

def start (state : σ) : Scene σ κ γ := ⟨state, [], none⟩

-- Act on the innermost container. Nothing is done outside of all containers.
@[inline] def within (scene : Scene σ κ γ) (act : κ → Logged (Scene σ κ γ)) : Logged (Scene σ κ γ) :=
  match scene.containers with
  | [] => return scene
  | container :: _ => act container

def perform (r : Renderer σ κ γ) (event : Event) (scene : Scene σ κ γ) :
    Logged (Scene σ κ γ) :=
  match event with
  | .openWindow title width height => do
      Logged.note (.windowRead title width height)
      let (window, state) ← r.createWindow title width height scene.state
      return { scene with state, containers := window :: scene.containers }
  | .layout layout => scene.within fun container => do
      Logged.note (.layoutRead layout)
      return { scene with state := ← r.setLayout container layout scene.state }
  | .button label => scene.within fun container =>
      return { scene with state := ← r.addButton container label scene.state }
  | .label text => scene.within fun container =>
      return { scene with state := ← r.addLabel container text scene.state }
  | .textField columns => scene.within fun container =>
      return { scene with state := ← r.addTextField container columns scene.state }
  | .openPanel => scene.within fun container => do
      let (panel, state) ← r.beginPanel container scene.state
      return { scene with state, containers := panel :: scene.containers }
  | .closePanel => return { scene with containers := scene.containers.tail }
  | .openGroup => do
      let (group, state) ← r.beginRadioGroup scene.state
      return { scene with state, group := some group }
  | .radio label => scene.within fun container =>
      match scene.group with
      | none => return scene
      | some group =>
          return { scene with state := ← r.addRadioButton group container label scene.state }
  | .closeGroup => return { scene with group := none }
  | .showWindow => scene.within fun container =>
      return { scene with state := ← r.showWindow container scene.state }

def performAll (r : Renderer σ κ γ) (scene : Scene σ κ γ) : List Event → Logged (Scene σ κ γ)
  | [] => return scene
  | event :: events => do performAll r (← scene.perform r event) events

end Scene

end WindowDoc
