import WindowDoc.Log

namespace WindowDoc

-- Something that windows can be drawn on, call by call. It has a state `σ` and hands out
-- handles of its own: `κ` for containers and `γ` for groups of radio buttons. A window is a
-- container, and `createWindow` answers with the handle that its layout and content refer to.
structure Renderer (σ κ γ : Type) where
  createWindow (title : String) (width height : Int32) : σ → Logged (κ × σ)
  setLayout (container : κ) (layout : Layout) : σ → Logged σ
  addButton (container : κ) (label : String) : σ → Logged σ
  addLabel (container : κ) (text : String) : σ → Logged σ
  addTextField (container : κ) (columns : Int32) : σ → Logged σ
  beginPanel (parent : κ) : σ → Logged (κ × σ)
  beginRadioGroup : σ → Logged (γ × σ)
  addRadioButton (group : γ) (container : κ) (label : String) : σ → Logged σ
  showWindow (window : κ) : σ → Logged σ

-- One of the nine calls with its arguments.
inductive Request (κ γ : Type) where
  | createWindow (title : String) (width height : Int32)
  | setLayout (container : κ) (layout : Layout)
  | addButton (container : κ) (label : String)
  | addLabel (container : κ) (text : String)
  | addTextField (container : κ) (columns : Int32)
  | beginPanel (parent : κ)
  | beginRadioGroup
  | addRadioButton (group : γ) (container : κ) (label : String)
  | showWindow (window : κ)
deriving DecidableEq

-- What a call answers with.
inductive Reply (κ γ : Type) where
  | done
  | container (handle : κ)
  | group (handle : γ)
deriving DecidableEq

namespace Renderer

variable {σ κ γ : Type}

def perform (r : Renderer σ κ γ) (request : Request κ γ) (state : σ) :
    Logged (Reply κ γ × σ) :=
  match request with
  | .createWindow title width height => do
      let (handle, state) ← r.createWindow title width height state
      return (.container handle, state)
  | .setLayout container layout => return (.done, ← r.setLayout container layout state)
  | .addButton container label => return (.done, ← r.addButton container label state)
  | .addLabel container text => return (.done, ← r.addLabel container text state)
  | .addTextField container columns => return (.done, ← r.addTextField container columns state)
  | .beginPanel parent => do
      let (handle, state) ← r.beginPanel parent state
      return (.container handle, state)
  | .beginRadioGroup => do
      let (handle, state) ← r.beginRadioGroup state
      return (.group handle, state)
  | .addRadioButton group container label =>
      return (.done, ← r.addRadioButton group container label state)
  | .showWindow window => return (.done, ← r.showWindow window state)

-- Several calls in a row, with handles that the caller chose beforehand.
def performAll (r : Renderer σ κ γ) : List (Request κ γ) → σ → Logged σ
  | [], state => return state
  | request :: requests, state => do
      let (_, state) ← r.perform request state
      r.performAll requests state

theorem value_performAll_append (r : Renderer σ κ γ) (requests more : List (Request κ γ))
    (state : σ) :
    (r.performAll (requests ++ more) state).value =
      (r.performAll more (r.performAll requests state).value).value := by
  induction requests generalizing state with
  | nil => rfl
  | cons request requests ih => exact ih (r.perform request state).value.2

end Renderer

end WindowDoc
