import WindowDoc.Lexemes
import WindowDoc.Place

namespace WindowDoc

-- What happens while a document is read: a lexeme is taken up, or a statement is complete and
-- takes effect.
inductive Act where
  | take (lexeme : Lexeme)
  | perform (event : Event)
deriving DecidableEq

-- All that happens, in order, and whether a whole document was there.
structure Reading where
  acts : List Act
  result : Except Fault Unit
deriving DecidableEq

namespace Reading

def stop (fault : Fault) : Reading := ⟨[], .error fault⟩

-- Begin with the next lexeme, and with the statement that has waited for it.
def after (lexeme : Lexeme) (waiting : Option Event) (reading : Reading) : Reading :=
  { reading with acts := .take lexeme :: waiting.toList.map .perform ++ reading.acts }

-- The statements that take effect, without the lexemes between them.
def events (reading : Reading) : List Event :=
  reading.acts.filterMap fun act =>
    match act with
    | .take _ => none
    | .perform event => some event

end Reading

namespace Lexemes

-- Read on from a place in the grammar where so many panels are open and may be. A statement
-- takes effect only once the lexeme after its last one has been taken up, so it is lost where
-- no lexeme can be read. Nothing after the period that ends the document is looked at.
def reading (limit : Nat) (place : Place) (depth : Nat) (waiting : Option Event) :
    Lexemes → Reading
  | stopped e => .stop (.lexical e)
  | ended position =>
      let lexeme : Lexeme := ⟨.eof, position⟩
      (Reading.stop (place.refusal limit lexeme)).after lexeme waiting
  | cons lexeme rest =>
      let onward := match place.step limit depth lexeme.position.line lexeme.token with
        | .goOn place depth event => rest.reading limit place depth event
        | .finished => ⟨[.perform .showWindow], .ok ()⟩
        | .refused => .stop (place.refusal limit lexeme)
      onward.after lexeme waiting

end Lexemes

-- The reading of a text from its beginning.
def Reading.ofText (limit : Nat) (source : String) : Reading :=
  (Lexemes.ofText source).reading limit .window 0 none

end WindowDoc
