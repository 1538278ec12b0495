import WindowDoc.Fault
import WindowDoc.Handle
import WindowDoc.Layout

universe u

namespace WindowDoc

inductive Level where
  | trace | debug | info | warn
deriving DecidableEq

def Level.text : Level → String
  | trace => "TRACE"
  | debug => "DEBUG"
  | info => "INFO"
  | warn => "WARN"

-- What is worth noting while a document is read, kept as data until someone wants the words.
inductive Entry where
  | lexed (lexeme : Lexeme)
  | windowRead (title : String) (width height : Int32)
  | layoutRead (layout : Layout)
  | parseFailed (fault : Fault)
  | replaying (count : Nat)
  | replaySkippedContainer (id : ContainerId)
  | replaySkippedGroup (id : GroupId)
  | layoutIgnored (id : ContainerId)
  | callIgnored (id : ContainerId)
  | radioIgnoredGroup (id : GroupId)
  | radioIgnoredContainer (id : ContainerId)
  | showIgnored (id : ContainerId)
  | assembled (title : String) (count : Nat)
  | loaded (name : String)
deriving DecidableEq

namespace Entry

def level : Entry → Level
  | lexed _ => .trace
  | windowRead .. | layoutRead _ | parseFailed _ | replaying _ | assembled .. => .debug
  | loaded _ => .info
  | replaySkippedContainer _ | replaySkippedGroup _ | layoutIgnored _ | callIgnored _
  | radioIgnoredGroup _ | radioIgnoredContainer _ | showIgnored _ => .warn

def message : Entry → String
  | lexed lexeme => lexeme.position.text ++ " " ++ lexeme.token.describe
  | windowRead title width height =>
      "window " ++ Text.quoted title ++ " " ++ Numeral.signed width ++ "x" ++ Numeral.signed height
  | layoutRead layout => "layout " ++ layout.describe
  | parseFailed fault => "parse failed: " ++ fault.message
  | replaying count => "replaying " ++ Numeral.text count ++ " recorded renderer calls"
  | replaySkippedContainer id => "replay: skipping call for unknown container " ++ id.text
  | replaySkippedGroup id => "replay: skipping call for unknown group " ++ id.text
  | layoutIgnored id => "ignoring layout for unknown container " ++ id.text
  | callIgnored id => "ignoring call for unknown container " ++ id.text
  | radioIgnoredGroup id => "ignoring radio button for unknown group " ++ id.text
  | radioIgnoredContainer id => "ignoring radio button for unknown container " ++ id.text
  | showIgnored id => "show called for unknown window " ++ id.text
  | assembled title count =>
      "assembled window " ++ Text.quoted title ++ " with " ++ Numeral.text count
        ++ " top-level widgets"
  | loaded name => "loaded " ++ name

end Entry

-- A value together with what was noted on the way to it, in order.
structure Logged (α : Type u) where
  value : α
  log : List Entry

namespace Logged

def note (entry : Entry) : Logged Unit := ⟨(), [entry]⟩

instance : Monad Logged where
  pure a := ⟨a, []⟩
  bind x f :=
    let ⟨a, log⟩ := x
    let ⟨b, more⟩ := f a
    ⟨b, log ++ more⟩

instance : LawfulMonad Logged := LawfulMonad.mk' Logged
  (by intro α x; cases x; simp [Functor.map])
  (by intro α β x f; rfl)
  (by intro α β γ x f g; cases x; simp [Bind.bind])

variable {α : Type u} {β : Type u}

@[simp] theorem value_pure (a : α) : (pure a : Logged α).value = a := rfl

@[simp] theorem log_pure (a : α) : (pure a : Logged α).log = [] := rfl

@[simp] theorem value_bind (x : Logged α) (f : α → Logged β) :
    (x >>= f).value = (f x.value).value := rfl

@[simp] theorem log_bind (x : Logged α) (f : α → Logged β) :
    (x >>= f).log = x.log ++ (f x.value).log := rfl

@[simp] theorem log_note (entry : Entry) : (note entry).log = [entry] := rfl

def warnings (log : List Entry) : List Entry :=
  log.filter fun entry => entry.level = .warn

-- Nothing that was noted is a warning.
def Quiet (x : Logged α) : Prop := warnings x.log = []

@[simp] theorem quiet_pure (a : α) : (pure a : Logged α).Quiet := rfl

@[simp] theorem quiet_bind_iff {x : Logged α} {f : α → Logged β} :
    (x >>= f).Quiet ↔ x.Quiet ∧ (f x.value).Quiet := by
  simp only [Quiet, warnings, log_bind, List.filter_append, List.append_eq_nil_iff]

@[simp] theorem quiet_map_iff {x : Logged α} {f : α → β} : (f <$> x).Quiet ↔ x.Quiet := by
  rw [← bind_pure_comp, quiet_bind_iff]
  exact and_iff_left (quiet_pure _)

@[simp] theorem quiet_note_iff {entry : Entry} : (note entry).Quiet ↔ entry.level ≠ .warn := by
  simp [Quiet, warnings]

end Logged

end WindowDoc
