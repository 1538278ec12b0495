import WindowDoc.Token

namespace WindowDoc

-- Results can be compared where their parts can.
instance decidableEqExcept {ε α : Type} [DecidableEq ε] [DecidableEq α] :
    DecidableEq (Except ε α)
  | .ok a, .ok b => decidable_of_iff (a = b) (by simp)
  | .error e, .error f => decidable_of_iff (e = f) (by simp)
  | .ok _, .error _ | .error _, .ok _ => isFalse (by simp)

-- Why no lexeme begins here.
inductive LexicalFault where
  | unknownWord (word : String)
  | unexpectedChar (c : Char)
  | unterminatedString
deriving DecidableEq

namespace LexicalFault

def message : LexicalFault → String
  | unknownWord word => "invalid token " ++ Text.quoted word
  | unexpectedChar c => "unexpected character " ++ Text.quotedChar c
  | unterminatedString => "unterminated string literal"

-- The offending source text, if there is any to show.
def text? : LexicalFault → Option String
  | unknownWord word => some word
  | unexpectedChar c => some (String.singleton c)
  | unterminatedString => none

end LexicalFault

structure LexicalError where
  fault : LexicalFault
  position : Position
deriving DecidableEq

def LexicalError.message (e : LexicalError) : String :=
  "wdl lexical error at " ++ e.position.text ++ ": " ++ e.fault.message

-- A lexeme of another kind than the grammar allows at its place.
structure Mismatch where
  position : Position
  -- every kind that would have been accepted here, in the order of the grammar
  expected : List Kind
  found : Kind
deriving DecidableEq

namespace Mismatch

def expectation : List Kind → String
  | [] => "nothing"
  | [kind] => kind.display
  | kinds => "one of " ++ ", ".intercalate (kinds.map Kind.display)

def message (e : Mismatch) : String :=
  "wdl syntax error at " ++ e.position.text ++ ": expected " ++ expectation e.expected
    ++ " but found " ++ e.found.display

end Mismatch

-- Why the bytes of a document could not be had as text.
inductive ReadFault where
  | invalidUtf8
  | isDirectory
deriving DecidableEq

def ReadFault.message : ReadFault → String
  | invalidUtf8 => "stream did not contain valid UTF-8"
  | isDirectory => "Is a directory (os error 21)"

-- Why a document is refused.
inductive Fault where
  | lexical (e : LexicalError)
  | mismatch (e : Mismatch)
  | nestingTooDeep (line limit : Nat)
  | unreadable (reason : ReadFault)
deriving DecidableEq

namespace Fault

def message : Fault → String
  | lexical e => e.message
  | mismatch e => e.message
  | nestingTooDeep line limit =>
      "wdl error at line " ++ Numeral.text line ++ ": panels nested deeper than "
        ++ Numeral.text limit
  | unreadable reason => "failed to read wdl source: " ++ reason.message

-- The line that the fault points at, when it has one.
def line? : Fault → Option Nat
  | lexical e => some e.position.line
  | mismatch e => some e.position.line
  | nestingTooDeep line _ => some line
  | unreadable _ => none

-- The message and then those of the causes below it.
def chain : Fault → List String
  | unreadable reason => [(unreadable reason).message, reason.message]
  | other => [other.message]

end Fault

end WindowDoc
