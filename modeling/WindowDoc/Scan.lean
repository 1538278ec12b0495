import WindowDoc.Fault
import WindowDoc.Text.Blank
import WindowDoc.Text.Word

namespace WindowDoc

-- Blanks and comments at the front of a text, and what follows them. A comment runs from two
-- slashes to the end of its line. `inComment` says that one has begun.
def trivia (inComment : Bool) : List Char → List Char × List Char
  | [] => ([], [])
  | c :: rest =>
      if inComment then
        let (skipped, left) := trivia (c != '\n') rest
        (c :: skipped, left)
      else if Text.isBlank c then
        let (skipped, left) := trivia false rest
        (c :: skipped, left)
      else if c = '/' ∧ rest.head? = some '/' then
        let (skipped, left) := trivia true rest
        (c :: skipped, left)
      else
        ([], c :: rest)

theorem trivia_append (inComment : Bool) (cs : List Char) :
    (trivia inComment cs).1 ++ (trivia inComment cs).2 = cs := by
  induction cs generalizing inComment with
  | nil => rfl
  | cons c rest ih =>
      unfold trivia
      split
      · simp [ih]
      · split
        · simp [ih]
        · split
          · simp [ih]
          · rfl

-- One attempt to read a lexeme at the front of a text: the characters it takes, what it makes
-- of them, and the characters it leaves.
structure Scan where
  taken : List Char
  result : Except LexicalFault Token
  rest : List Char
deriving DecidableEq

namespace Scan

-- What a string may hold: anything but a quote and the end of the line.
def isContent (c : Char) : Bool := c != '"' && c != '\n'

-- A string runs to the next quote. `cs` follows the opening one.
def string (cs : List Char) : Scan :=
  let content := cs.takeWhile isContent
  match cs.dropWhile isContent with
  | '"' :: rest => ⟨'"' :: content ++ ['"'], .ok (.string (String.ofList content)), rest⟩
  | rest => ⟨'"' :: content, .error .unterminatedString, rest⟩

-- The digits of a fraction at the front of a text, and what follows them. A point belongs to
-- the number only when a digit follows it.
def fraction : List Char → List Char × List Char
  | '.' :: d :: rest =>
      if d.isDigit then ((d :: rest).takeWhile Char.isDigit, (d :: rest).dropWhile Char.isDigit)
      else ([], '.' :: d :: rest)
  | rest => ([], rest)

-- The texts of a number: its sign, the digits before the point, and those after it.
structure Literal where
  negative : Bool
  whole : List Char
  fraction : List Char
deriving DecidableEq

namespace Literal

def text (l : Literal) : List Char :=
  (if l.negative then ['-'] else []) ++ l.whole
    ++ (if l.fraction.isEmpty then [] else '.' :: l.fraction)

def decimal (l : Literal) : Decimal :=
  ⟨l.negative, Numeral.value (l.whole ++ l.fraction), l.fraction.length⟩

end Literal

-- A number takes every digit that it can. `cs` begins with one.
def number (negative : Bool) (cs : List Char) : Scan :=
  let after := fraction (cs.dropWhile Char.isDigit)
  let literal : Literal := ⟨negative, cs.takeWhile Char.isDigit, after.1⟩
  ⟨literal.text, .ok (.number literal.decimal.toDouble), after.2⟩

-- A bare word is taken whole and has to be a keyword.
def word (cs : List Char) : Scan :=
  let spelled := cs.takeWhile Text.isWordPart
  let result := match Keyword.ofWord? spelled with
    | some k => .ok (.keyword k)
    | none => .error (.unknownWord (String.ofList spelled))
  ⟨spelled, result, cs.dropWhile Text.isWordPart⟩

def beginsWithDigit (cs : List Char) : Bool :=
  cs.head?.any Char.isDigit

-- The attempt that the first character calls for. A character that begins no lexeme is left
-- where it is.
def ofText : List Char → Scan
  | [] => ⟨[], .ok .eof, []⟩
  | c :: rest =>
      if c = ',' then ⟨[c], .ok .comma, rest⟩
      else if c = ':' then ⟨[c], .ok .colon, rest⟩
      else if c = ';' then ⟨[c], .ok .semicolon, rest⟩
      else if c = '.' then ⟨[c], .ok .period, rest⟩
      else if c = '(' then ⟨[c], .ok .openParen, rest⟩
      else if c = ')' then ⟨[c], .ok .closeParen, rest⟩
      else if c = '"' then string rest
      else if c.isDigit then number false (c :: rest)
      else if c = '-' ∧ beginsWithDigit rest then number true rest
      else if Text.isAlphabetic c then word (c :: rest)
      else ⟨[], .error (.unexpectedChar c), c :: rest⟩

end Scan

end WindowDoc
