import WindowDoc.Renderer
import WindowDoc.Window

namespace WindowDoc

-- What a container holds at one place: a widget, or a reference to a panel or group whose
-- content is kept elsewhere and may still grow.
inductive Slot where
  | widget (widget : Widget)
  | panel (id : ContainerId)
  | group (id : GroupId)
deriving DecidableEq

structure Container where
  layout : Layout
  slots : Array Slot
deriving DecidableEq

namespace Container

def empty : Container := ⟨.flow, #[]⟩

def push (slot : Slot) (container : Container) : Container :=
  { container with slots := container.slots.push slot }

end Container

-- A window that has been created and not yet shown.
structure PendingWindow where
  id : ContainerId
  title : String
  width : Int32
  height : Int32
deriving DecidableEq

-- Windows under construction. All containers made so far are kept by number, and so are the
-- labels of each group. A window becomes a value of its own when it is shown.
structure Assembler where
  containers : Array Container
  groups : Array (List String)
  pending : List PendingWindow
  windows : Array Window
deriving DecidableEq

namespace Assembler

def empty : Assembler := ⟨#[], #[], [], #[]⟩

-- The layout and content of a container as they are now. A panel is always numbered after the
-- container it stands in, which bounds the descent.
def assemble (a : Assembler) (index : Nat) : Layout × List Widget :=
  match a.containers[index]? with
  | none => (.flow, [])
  | some container =>
      (container.layout, container.slots.toList.map fun slot =>
        match slot with
        | .widget widget => widget
        | .panel id =>
            if _ : index < id.index ∧ id.index < a.containers.size then
              let (layout, children) := a.assemble id.index
              .panel layout children
            else .panel .flow []
        | .group id => .radioGroup (a.groups[id.index]?.getD []))
termination_by a.containers.size - index

theorem assemble_eq (a : Assembler) (index : Nat) :
    a.assemble index = match a.containers[index]? with
      | none => (.flow, [])
      | some container =>
          (container.layout, container.slots.toList.map fun slot =>
            match slot with
            | .widget widget => widget
            | .panel id =>
                if index < id.index ∧ id.index < a.containers.size then
                  .panel (a.assemble id.index).1 (a.assemble id.index).2
                else .panel .flow []
            | .group id => .radioGroup (a.groups[id.index]?.getD [])) := by
  rw [assemble]
  split <;> simp_all

def addContainer (a : Assembler) : ContainerId × Assembler :=
  (⟨a.containers.size⟩, { a with containers := a.containers.push .empty })

def update (a : Assembler) (id : ContainerId) (change : Container → Container) : Assembler :=
  { a with containers := a.containers.modify id.index change }

def isContainer (a : Assembler) (id : ContainerId) : Bool :=
  decide (id.index < a.containers.size)

-- A slot for a container that was never made is dropped.
def addSlot (a : Assembler) (id : ContainerId) (slot : Slot) : Logged Assembler :=
  if a.isContainer id then return a.update id (·.push slot)
  else do
    Logged.note (.callIgnored id)
    return a

-- A group takes its place in a container with its first button. From then on it takes buttons
-- whatever container they are meant for.
def addRadioButton (group : GroupId) (container : ContainerId) (label : String)
    (a : Assembler) : Logged Assembler :=
  match a.groups[group.index]? with
  | none => do
      Logged.note (.radioIgnoredGroup group)
      return a
  | some labels =>
      let joined : Assembler := { a with groups := a.groups.modify group.index (· ++ [label]) }
      if !labels.isEmpty then return joined
      else if a.isContainer container then return joined.update container (·.push (.group group))
      else do
        Logged.note (.radioIgnoredContainer container)
        return a

-- Showing turns a pending window into a value once. Later calls do not reach it any more.
def showWindow (window : ContainerId) (a : Assembler) : Logged Assembler :=
  match a.pending.find? (·.id = window) with
  | none => do
      Logged.note (.showIgnored window)
      return a
  | some entry => do
      let (layout, children) := a.assemble window.index
      Logged.note (.assembled entry.title children.length)
      let shown : Window := ⟨entry.title, entry.width, entry.height, layout, children⟩
      return { a with
        pending := a.pending.eraseP (·.id = window)
        windows := a.windows.push shown }

def renderer : Renderer Assembler ContainerId GroupId where
  createWindow title width height a :=
    let (id, a) := a.addContainer
    return (id, { a with pending := a.pending ++ [⟨id, title, width, height⟩] })
  setLayout container layout a :=
    if a.isContainer container then
      return a.update container fun box => { box with layout }
    else do
      Logged.note (.layoutIgnored container)
      return a
  addButton container label a := a.addSlot container (.widget (.button label))
  addLabel container text a := a.addSlot container (.widget (.label text))
  addTextField container columns a := a.addSlot container (.widget (.textField columns))
  -- a panel is made before its parent is looked for, and made even if there is none
  beginPanel parent a := do
    let (id, a) := a.addContainer
    return (id, ← a.addSlot parent (.panel id))
  beginRadioGroup a :=
    return (⟨a.groups.size⟩, { a with groups := a.groups.push [] })
  addRadioButton := addRadioButton
  showWindow := showWindow

-- The window shown last.
def lastWindow? (a : Assembler) : Option Window := a.windows.back?

end Assembler

end WindowDoc
