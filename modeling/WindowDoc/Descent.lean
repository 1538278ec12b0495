import WindowDoc.Reading

namespace WindowDoc

-- The grammar as rules that call one another. A rule looks at one lexeme and tests it for the kinds
-- that it may begin with. What the lexeme has been tested for in vain is kept until it is taken, so
-- that a fault names all that would have been in its place.

-- The kinds with another one behind them, unless they have it already.
def Kind.addTo (kind : Kind) (kinds : List Kind) : List Kind :=
  if kind ∈ kinds then kinds else kinds ++ [kind]

namespace Lexemes

-- The next lexeme and what is behind it. The end of the text is found as often as it is asked for.
def pull : Lexemes → Except LexicalError (Lexeme × Lexemes)
  | stopped e => .error e
  | ended position => .ok (⟨.eof, position⟩, ended position)
  | cons lexeme rest => .ok (lexeme, rest)

def length : Lexemes → Nat
  | cons _ rest => rest.length + 1
  | _ => 0

end Lexemes

-- How far the rules have come: the lexeme that they look at, what is behind it, the kinds that it
-- has turned out not to be, the panels that are open, and all that has happened.
structure Reader where
  lexeme : Lexeme
  rest : Lexemes
  missed : List Kind
  depth : Nat
  acts : List Act

namespace Reader

def start (lexeme : Lexeme) (rest : Lexemes) : Reader := ⟨lexeme, rest, [], 0, [.take lexeme]⟩

def take (lexeme : Lexeme) (rest : Lexemes) (reader : Reader) : Reader :=
  { reader with lexeme, rest, missed := [], acts := reader.acts ++ [.take lexeme] }

def miss (kind : Kind) (reader : Reader) : Reader :=
  { reader with missed := kind.addTo reader.missed }

def perform (event : Event) (reader : Reader) : Reader :=
  { reader with acts := reader.acts ++ [.perform event] }

def enter (reader : Reader) : Reader := { reader with depth := reader.depth + 1 }

def leave (reader : Reader) : Reader := { reader with depth := reader.depth - 1 }

-- How many lexemes are left before the end.
def remaining (reader : Reader) : Nat :=
  if reader.lexeme.kind = .eof then 0 else reader.rest.length + 1

end Reader

-- A rule ends with a fault or without one, unless it is given up.
abbrev Rule := ExceptT Fault (StateT Reader Option)

namespace Rule

def check (kind : Kind) : Rule Bool := do
  if (← get).lexeme.kind = kind then
    return true
  else
    modify (Reader.miss kind)
    return false

def bump : Rule Unit := do
  match (← get).rest.pull with
  | .error e => throw (.lexical e)
  | .ok (lexeme, rest) => modify (Reader.take lexeme rest)

def eat (kind : Kind) : Rule Bool := do
  if ← check kind then
    bump
    return true
  else
    return false

def unexpected {α : Type} : Rule α := do
  let reader ← get
  throw (.mismatch ⟨reader.lexeme.position, reader.missed, reader.lexeme.kind⟩)

def expect (kind : Kind) : Rule Unit := do
  if ← eat kind then
    return
  else
    unexpected

-- A literal of the kind, by what it stands for.
def expectLiteral {α : Type} (kind : Kind) (value? : Lexeme → Option α) : Rule α := do
  match value? (← get).lexeme with
  | some value =>
      bump
      return value
  | none =>
      let _ ← check kind
      unexpected

def expectString : Rule String := expectLiteral .string Lexeme.string?

def expectNumber : Rule Int32 := expectLiteral .number fun lexeme => lexeme.number?.map Double.toInt32

def perform (event : Event) : Rule Unit := modify (Reader.perform event)

-- A statement with some content and the semicolon that completes it.
def statement {α : Type} (content : Rule α) (event : α → Event) : Rule Unit := do
  let value ← content
  expect .semicolon
  perform (event value)

-- number , number )
def gaps : Rule Gaps := do
  let horizontal ← expectNumber
  expect .comma
  let vertical ← expectNumber
  expect .closeParen
  return ⟨horizontal, vertical⟩

-- FLOW | GRID ( number , number [, number , number] )
def arrangement : Rule Layout := do
  if ← eat (.keyword .flow) then
    return .flow
  else if ← eat (.keyword .grid) then
    expect .openParen
    let rows ← expectNumber
    expect .comma
    let columns ← expectNumber
    if ← eat .closeParen then
      return .grid rows columns none
    else if ← eat .comma then
      return .grid rows columns (some (← gaps))
    else
      unexpected
  else
    unexpected

-- LAYOUT arrangement :
def layout : Rule Unit := do
  expect (.keyword .layout)
  let layout ← arrangement
  expect .colon
  perform (.layout layout)

-- END ;
def blockEnd : Rule Unit := do
  expect (.keyword .finish)
  expect .semicolon

-- RADIO string ;
def radioButton : Rule Unit := do
  expect (.keyword .radio)
  statement expectString .radio

-- Whether the lexeme is of one of the kinds, which are tried in order.
def anyOf : List Kind → Rule Bool
  | [] => return false
  | kind :: kinds => do
      if ← check kind then
        return true
      else
        anyOf kinds

def giveUp : Rule Unit := fun _ => none

-- The rule again and again, while the lexeme is of one of the kinds. With the last round it is
-- given up.
def repeatedly (starts : List Kind) (rule : Rule Unit) : Nat → Rule Unit
  | 0 => giveUp
  | rounds + 1 => do
      if ← anyOf starts then
        rule
        repeatedly starts rule rounds

-- Every round takes a lexeme, so that there are no more of them than lexemes left.
def oneOrMore (starts : List Kind) (rule : Rule Unit) : Rule Unit := do
  rule
  repeatedly starts rule ((← get).remaining + 1)

def radioButtons : Rule Unit := oneOrMore [.keyword .radio] radioButton

-- What is behind the keyword of a group.
def group : Rule Unit := do
  perform .openGroup
  radioButtons
  blockEnd
  perform .closeGroup

-- What is behind the keyword of a panel, which stands in the line. The widgets of the panel are
-- read by the rule that is given.
def panel (limit line : Nat) (inner : Rule Unit) : Rule Unit := do
  if limit ≤ (← get).depth then
    throw (.nestingTooDeep line limit)
  else
    perform .openPanel
    modify Reader.enter
    layout
    inner
    modify Reader.leave
    blockEnd
    perform .closePanel

def widget (limit : Nat) (inner : Rule Unit) : Rule Unit := do
  let line := (← get).lexeme.position.line
  if ← eat (.keyword .button) then
    statement expectString .button
  else if ← eat (.keyword .group) then
    group
  else if ← eat (.keyword .label) then
    statement expectString .label
  else if ← eat (.keyword .panel) then
    panel limit line inner
  else if ← eat (.keyword .textField) then
    statement expectNumber .textField
  else
    unexpected

-- Widgets with panels in one another, but not more of them than there is room for.
def widgets (limit : Nat) : Nat → Rule Unit
  | 0 => giveUp
  | room + 1 => oneOrMore Place.widgetStarts (widget limit (widgets limit room))

-- WINDOW string ( number , number ) layout widgets END .
def program (limit : Nat) : Rule Unit := do
  expect (.keyword .window)
  let title ← expectString
  expect .openParen
  let width ← expectNumber
  expect .comma
  let height ← expectNumber
  expect .closeParen
  perform (.openWindow title width height)
  layout
  -- a panel too many is refused before its widgets are looked at
  widgets limit (limit + 1)
  expect (.keyword .finish)
  -- nothing after the period is read
  if ← check .period then
    perform .showWindow
  else
    unexpected

-- All that happens when a rule is followed, unless it is given up.
def follow (rule : Rule Unit) (reader : Reader) : Option Reading := do
  let (result, reader) ← rule.run.run reader
  return ⟨reader.acts, result⟩

end Rule

-- The reading of a document by the rules.
def Lexemes.descend (limit : Nat) (lexemes : Lexemes) : Option Reading :=
  match lexemes.pull with
  | .error e => some (.stop (.lexical e))
  | .ok (lexeme, rest) => (Rule.program limit).follow (.start lexeme rest)

end WindowDoc
