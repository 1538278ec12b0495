import WindowDoc.Options
import WindowDoc.Reading
import WindowDoc.Recording.Replay
import WindowDoc.Scene

namespace WindowDoc

-- How an attempt to draw a document ended, and the renderer's state after it.
structure Outcome (σ : Type) where
  result : Except Fault Unit
  state : σ
deriving DecidableEq

variable {σ κ γ : Type}

namespace Scene

def act (r : Renderer σ κ γ) (scene : Scene σ κ γ) : Act → Logged (Scene σ κ γ)
  | .take lexeme => do
      Logged.note (.lexed lexeme)
      return scene
  | .perform event => scene.perform r event

def actAll (r : Renderer σ κ γ) (scene : Scene σ κ γ) : List Act → Logged (Scene σ κ γ)
  | [] => return scene
  | act :: acts => do actAll r (← scene.act r act) acts

end Scene

def Reading.render (r : Renderer σ κ γ) (reading : Reading) (state : σ) :
    Logged (Outcome σ) := do
  let scene ← Scene.actAll r (.start state) reading.acts
  return ⟨reading.result, scene.state⟩

def parseStreaming (r : Renderer σ κ γ) (limit : Nat) (source : String) (state : σ) :
    Logged (Outcome σ) :=
  (Reading.ofText limit source).render r state

-- A document that turns out to be faulty leaves no trace on the renderer.
def parseAtomic (r : Renderer σ κ γ) (limit : Nat) (source : String) (state : σ) :
    Logged (Outcome σ) := do
  let recorded ← parseStreaming Recording.renderer limit source .empty
  match recorded.result with
  | .error fault => return ⟨.error fault, state⟩
  | .ok () => return ⟨.ok (), ← recorded.state.replay r state⟩

-- Draw the document on the renderer.
def parse (r : Renderer σ κ γ) (options : Options) (source : String) (state : σ) :
    Logged (Outcome σ) := do
  let outcome ← match options.commit with
    | .streaming => parseStreaming r options.maxNesting source state
    | .atomic => parseAtomic r options.maxNesting source state
  if let .error fault := outcome.result then
    Logged.note (.parseFailed fault)
  return outcome

-- The same for a document in UTF-8. Bytes that are not well formed draw nothing.
def parseBytes (r : Renderer σ κ γ) (options : Options) (bytes : ByteArray) (state : σ) :
    Logged (Outcome σ) :=
  match String.fromUTF8? bytes with
  | none => return ⟨.error (.unreadable .invalidUtf8), state⟩
  | some source => parse r options source state

end WindowDoc
