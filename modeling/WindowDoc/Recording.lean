import WindowDoc.Renderer

namespace WindowDoc

-- A call kept as data. The calls that make something also keep the number it was given.
inductive Call where
  | createWindow (id : ContainerId) (title : String) (width height : Int32)
  | setLayout (container : ContainerId) (layout : Layout)
  | addButton (container : ContainerId) (label : String)
  | addLabel (container : ContainerId) (text : String)
  | addTextField (container : ContainerId) (columns : Int32)
  | beginPanel (parent id : ContainerId)
  | beginRadioGroup (id : GroupId)
  | addRadioButton (group : GroupId) (container : ContainerId) (label : String)
  | showWindow (window : ContainerId)
deriving DecidableEq

-- The calls received so far, in order, and how many containers and groups they made.
-- Containers and groups are numbered from zero, each kind on its own.
structure Recording where
  calls : Array Call
  containers : Nat
  groups : Nat
deriving DecidableEq

namespace Recording

def empty : Recording := ⟨#[], 0, 0⟩

def push (call : Call) (recording : Recording) : Logged Recording :=
  return { recording with calls := recording.calls.push call }

-- Recording never looks at a handle, so it keeps those that were never handed out as well.
def renderer : Renderer Recording ContainerId GroupId where
  createWindow title width height recording := do
    let id : ContainerId := ⟨recording.containers⟩
    let recording ← push (.createWindow id title width height) recording
    return (id, { recording with containers := recording.containers + 1 })
  setLayout container layout := push (.setLayout container layout)
  addButton container label := push (.addButton container label)
  addLabel container text := push (.addLabel container text)
  addTextField container columns := push (.addTextField container columns)
  beginPanel parent recording := do
    let id : ContainerId := ⟨recording.containers⟩
    let recording ← push (.beginPanel parent id) recording
    return (id, { recording with containers := recording.containers + 1 })
  beginRadioGroup recording := do
    let id : GroupId := ⟨recording.groups⟩
    let recording ← push (.beginRadioGroup id) recording
    return (id, { recording with groups := recording.groups + 1 })
  addRadioButton group container label := push (.addRadioButton group container label)
  showWindow window := push (.showWindow window)

end Recording

end WindowDoc
