import WindowDoc.Double.Shortest
import WindowDoc.Text.Quoted

namespace WindowDoc

inductive Keyword where
  | window | layout | flow | grid | panel | button | label | textField | group | radio | finish
deriving DecidableEq

namespace Keyword

-- The name under which logs and diagnostics list the keyword.
def name : Keyword → String
  | window => "Window"
  | layout => "Layout"
  | flow => "Flow"
  | grid => "Grid"
  | panel => "Panel"
  | button => "Button"
  | label => "Label"
  | textField => "TextField"
  | group => "Group"
  | radio => "Radio"
  | finish => "End"

def spelling : Keyword → String
  | window => "window"
  | layout => "layout"
  | flow => "flow"
  | grid => "grid"
  | panel => "panel"
  | button => "button"
  | label => "label"
  | textField => "textfield"
  | group => "group"
  | radio => "radio"
  | finish => "end"

def all : List Keyword :=
  [window, layout, flow, grid, panel, button, label, textField, group, radio, finish]

-- The keyword that a bare word spells, in capitals, small letters or any mixture of them.
def ofWord? (word : List Char) : Option Keyword :=
  all.find? fun k => k.spelling.toList == word.map Char.toLower

end Keyword

-- What the grammar tells apart: every keyword, the two literals, every mark, and the end.
inductive Kind where
  | keyword (k : Keyword)
  | string | number
  | comma | colon | semicolon | period | openParen | closeParen
  | eof
deriving DecidableEq

namespace Kind

def name : Kind → String
  | keyword k => k.name
  | string => "String"
  | number => "Number"
  | comma => "Comma"
  | colon => "Colon"
  | semicolon => "Semicolon"
  | period => "Period"
  | openParen => "OpenParen"
  | closeParen => "CloseParen"
  | eof => "Eof"

-- How messages speak of a kind.
def display : Kind → String
  | keyword k => "`" ++ k.spelling ++ "`"
  | string => "string literal"
  | number => "number"
  | comma => "`,`"
  | colon => "`:`"
  | semicolon => "`;`"
  | period => "`.`"
  | openParen => "`(`"
  | closeParen => "`)`"
  | eof => "end of input"

def all : List Kind :=
  Keyword.all.map keyword
    ++ [string, number, comma, colon, semicolon, period, openParen, closeParen, eof]

end Kind

inductive Token where
  | keyword (k : Keyword)
  -- what stands between the quotes, as it is
  | string (content : String)
  | number (value : Double)
  | comma | colon | semicolon | period | openParen | closeParen
  | eof
deriving DecidableEq

namespace Token

def kind : Token → Kind
  | keyword k => .keyword k
  | string _ => .string
  | number _ => .number
  | comma => .comma
  | colon => .colon
  | semicolon => .semicolon
  | period => .period
  | openParen => .openParen
  | closeParen => .closeParen
  | eof => .eof

-- The token with its payload, as the log shows it.
def describe : Token → String
  | keyword k => "Keyword(" ++ k.name ++ ")"
  | string content => "Str(" ++ Text.quoted content ++ ")"
  | number value => "Number(" ++ value.text ++ ")"
  | other => other.kind.name

end Token

-- A place in a text. Both numbers count from one.
structure Position where
  line : Nat
  column : Nat
deriving DecidableEq

namespace Position

def start : Position := ⟨1, 1⟩

-- Only a line feed begins a line. Every character is one column wide.
def advance (p : Position) (c : Char) : Position :=
  if c = '\n' then ⟨p.line + 1, 1⟩ else ⟨p.line, p.column + 1⟩

def after (p : Position) (cs : List Char) : Position :=
  cs.foldl advance p

theorem after_append (p : Position) (cs ds : List Char) :
    p.after (cs ++ ds) = (p.after cs).after ds := by
  simp [after]

-- A position as messages write it.
def text (p : Position) : String :=
  Numeral.text p.line ++ ":" ++ Numeral.text p.column

end Position

-- A token together with where it begins.
structure Lexeme where
  token : Token
  position : Position
deriving DecidableEq

namespace Lexeme

def kind (l : Lexeme) : Kind := l.token.kind

def string? (l : Lexeme) : Option String :=
  match l.token with
  | .string content => some content
  | _ => none

def number? (l : Lexeme) : Option Double :=
  match l.token with
  | .number value => some value
  | _ => none

end Lexeme

end WindowDoc
