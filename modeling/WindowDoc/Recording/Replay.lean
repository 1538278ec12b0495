import WindowDoc.Recording

namespace WindowDoc

-- A recording on its way onto a renderer: the renderer's state, and the handles it gave for
-- the recorded containers and groups so far.
structure Replay (σ κ γ : Type) where
  state : σ
  containers : List (ContainerId × κ)
  groups : List (GroupId × γ)

namespace Replay

variable {σ κ γ : Type}

-- A call on a container that has no handle here is skipped.
@[inline] def onContainer (id : ContainerId) (replay : Replay σ κ γ)
    (act : κ → Logged (Replay σ κ γ)) : Logged (Replay σ κ γ) :=
  match replay.containers.lookup id with
  | some handle => act handle
  | none => do
      Logged.note (.replaySkippedContainer id)
      return replay

@[inline] def onGroup (id : GroupId) (replay : Replay σ κ γ)
    (act : γ → Logged (Replay σ κ γ)) : Logged (Replay σ κ γ) :=
  match replay.groups.lookup id with
  | some handle => act handle
  | none => do
      Logged.note (.replaySkippedGroup id)
      return replay

def issue (r : Renderer σ κ γ) (call : Call) (replay : Replay σ κ γ) :
    Logged (Replay σ κ γ) :=
  match call with
  | .createWindow id title width height => do
      let (handle, state) ← r.createWindow title width height replay.state
      return { replay with state, containers := (id, handle) :: replay.containers }
  | .setLayout container layout => onContainer container replay fun handle =>
      return { replay with state := ← r.setLayout handle layout replay.state }
  | .addButton container label => onContainer container replay fun handle =>
      return { replay with state := ← r.addButton handle label replay.state }
  | .addLabel container text => onContainer container replay fun handle =>
      return { replay with state := ← r.addLabel handle text replay.state }
  | .addTextField container columns => onContainer container replay fun handle =>
      return { replay with state := ← r.addTextField handle columns replay.state }
  | .beginPanel parent id => onContainer parent replay fun handle => do
      let (panel, state) ← r.beginPanel handle replay.state
      return { replay with state, containers := (id, panel) :: replay.containers }
  | .beginRadioGroup id => do
      let (handle, state) ← r.beginRadioGroup replay.state
      return { replay with state, groups := (id, handle) :: replay.groups }
  | .addRadioButton group container label =>
      onContainer container replay fun handle => onGroup group replay fun members =>
        return { replay with state := ← r.addRadioButton members handle label replay.state }
  | .showWindow window => onContainer window replay fun handle =>
      return { replay with state := ← r.showWindow handle replay.state }

def issueAll (r : Renderer σ κ γ) : List Call → Replay σ κ γ → Logged (Replay σ κ γ)
  | [], replay => return replay
  | call :: calls, replay => do issueAll r calls (← issue r call replay)

end Replay

-- Issue the recorded calls, in order, with the handles that the renderer answers with now.
def Recording.replay (recording : Recording) (r : Renderer σ κ γ) (state : σ) : Logged σ := do
  Logged.note (.replaying recording.calls.size)
  let replay ← Replay.issueAll r recording.calls.toList ⟨state, [], []⟩
  return replay.state

end WindowDoc
