import WindowDoc.Assembler
import WindowDoc.File
import WindowDoc.Parse

namespace WindowDoc

-- Why no window could be had. A document may be named as the place where the fault lies.
inductive Failure where
  | unopened (name : String) (reason : OpenFault)
  | unparsed (name : Option String) (fault : Fault)
  | windowless
deriving DecidableEq

namespace Failure

-- The texts of the failure, from what was being done to the innermost cause.
def chain : Failure → List String
  | unopened name reason => ["opening " ++ name, reason.message]
  | unparsed none fault => fault.chain
  | unparsed (some name) fault => ("parsing " ++ name) :: fault.chain
  | windowless => ["document produced no window"]

def message (failure : Failure) : String := failure.chain.headD ""

def full (failure : Failure) : String := ": ".intercalate failure.chain

def fault? : Failure → Option Fault
  | unparsed _ fault => some fault
  | _ => none

end Failure

namespace Assembler

-- The window that a document left behind.
def harvest (name : Option String) (outcome : Outcome Assembler) : Except Failure Window :=
  match outcome.result with
  | .error fault => .error (.unparsed name fault)
  | .ok () =>
      match outcome.state.lastWindow? with
      | none => .error .windowless
      | some window => .ok window

end Assembler

def parseWindow (options : Options) (source : String) : Logged (Except Failure Window) := do
  let outcome ← parse Assembler.renderer options source .empty
  return Assembler.harvest none outcome

-- Bytes of an opened file, or why they cannot be read.
def File.parse (r : Renderer σ κ γ) (options : Options) (state : σ) :
    File → Logged (Outcome σ)
  | directory => return ⟨.error (.unreadable .isDirectory), state⟩
  | contents bytes => parseBytes r options bytes state

-- Read the document that was found under a name.
def loadWindow (options : Options) (name : String) (found : Except OpenFault File) :
    Logged (Except Failure Window) := do
  match found with
  | .error reason => return .error (.unopened name reason)
  | .ok file =>
      let outcome ← file.parse Assembler.renderer options .empty
      if let .ok () := outcome.result then
        Logged.note (.loaded name)
      return Assembler.harvest (some name) outcome

end WindowDoc
