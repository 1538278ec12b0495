import WindowDoc.Proofs.Lexing

namespace WindowDoc.Segmentation

-- What the lexemes of a text are, told without reading it: the text is cut into lexemes with
-- blanks and comments between them, and each piece says for itself where it ends.

-- Nothing follows on the line.
def EndsLine (cs : List Char) : Prop := ∀ c ∈ cs.head?, c = '\n'

-- Blanks and comments before `rest` in any mixture. A comment stops before the end of its line.
inductive Trivia (rest : List Char) : List Char → Prop where
  | nil : Trivia rest []
  | blank {c cs} : Text.isBlank c = true → Trivia rest cs → Trivia rest (c :: cs)
  | comment {body cs} : '\n' ∉ body → EndsLine (cs ++ rest) → Trivia rest cs →
      Trivia rest ('/' :: '/' :: (body ++ cs))

-- Neither a blank nor a comment is at the front.
structure Solid (cs : List Char) : Prop where
  blank : ∀ c ∈ cs.head?, Text.isBlank c = false
  comment : ¬ ['/', '/'] <+: cs

def marks : List (Char × Token) :=
  [(',', .comma), (':', .colon), (';', .semicolon), ('.', .period), ('(', .openParen),
    (')', .closeParen)]

def sign (negative : Bool) : List Char := if negative then ['-'] else []

-- The text of a lexeme before `rest`, which holds no character that could belong to it. A point
-- belongs to a number only between digits.
inductive Spelled (rest : List Char) : List Char → Token → Prop where
  | mark {c token} : (c, token) ∈ marks → Spelled rest [c] token
  | string {content : String} : Quotable content →
      Spelled rest ('"' :: content.toList ++ ['"']) (.string content)
  | whole {negative digits} : digits ≠ [] → (∀ d ∈ digits, d.isDigit = true) →
      Scan.beginsWithDigit rest = false → Scan.beginsWithFraction rest = false →
      Spelled rest (sign negative ++ digits)
        (.number (Decimal.mk negative (Numeral.value digits) 0).toDouble)
  | fractional {negative digits decimals} : digits ≠ [] → (∀ d ∈ digits, d.isDigit = true) →
      decimals ≠ [] → (∀ d ∈ decimals, d.isDigit = true) → Scan.beginsWithDigit rest = false →
      Spelled rest (sign negative ++ digits ++ '.' :: decimals)
        (.number
          (Decimal.mk negative (Numeral.value (digits ++ decimals)) decimals.length).toDouble)
  | keyword {c word k} : Text.isAlphabetic c = true → (∀ d ∈ word, Text.isWordPart d = true) →
      rest.head?.any Text.isWordPart = false →
      k.spelling.toList = (c :: word).map Char.toLower → Spelled rest (c :: word) (.keyword k)

-- What to say of a text at which no lexeme begins, by its first character.
inductive Blame : List Char → LexicalFault → Prop where
  | word {c run rest} : Text.isAlphabetic c = true → (∀ d ∈ run, Text.isWordPart d = true) →
      rest.head?.any Text.isWordPart = false →
      Blame (c :: run ++ rest) (.unknownWord (String.ofList (c :: run)))
  | quote {rest} : Blame ('"' :: rest) .unterminatedString
  | character {c rest} : Text.isAlphabetic c = false → c ≠ '"' →
      Blame (c :: rest) (.unexpectedChar c)

-- There is more, but neither a blank, nor a comment, nor a lexeme.
structure Stuck (left : List Char) (fault : LexicalFault) : Prop where
  solid : Solid left
  unspelled : ∀ text rest token, left = text ++ rest → ¬ Spelled rest text token
  blame : Blame left fault

-- Letters, digits and blanks are apart.

theorem isBlank_of_isAlphabetic {c : Char} (h : Text.isAlphabetic c = true) :
    Text.isBlank c = false :=
  Text.covers_apart Text.alphabeticRanges_ascending Text.blankRanges_ascending
    (by decide +kernel) h

theorem isWordPart_of_isBlank {c : Char} (h : Text.isBlank c = true) :
    Text.isWordPart c = false := by
  have halpha : Text.isAlphabetic c = false :=
    Text.covers_apart Text.blankRanges_ascending Text.alphabeticRanges_ascending
      (by decide +kernel) h
  have hnumeric : Text.isNumeric c = false :=
    Text.covers_apart Text.blankRanges_ascending Text.numericRanges_ascending
      (by decide +kernel) h
  rw [Text.isWordPart, halpha, hnumeric]
  rw [Bool.false_or, Bool.false_or, beq_eq_false_iff_ne]
  rintro rfl
  exact absurd h (by decide)

theorem ne_slash_of_isAlphabetic {c : Char} (h : Text.isAlphabetic c = true) : c ≠ '/' := by
  rintro rfl
  exact absurd h (by decide +kernel)

theorem isDigit_of_isAlphabetic {c : Char} (h : Text.isAlphabetic c = true) :
    c.isDigit = false := by
  have hlow : ∀ letter ∈ Text.alphabeticRanges, 0x41 ≤ letter.1 := by
    decide +kernel
  rw [Text.isAlphabetic, Text.covers_iff Text.alphabeticRanges_ascending] at h
  obtain ⟨letter, hletter, hle, -⟩ := h
  have hbound := hlow letter hletter
  rw [Bool.eq_false_iff]
  intro hdigit
  have hrange : 0x30 ≤ c.toNat ∧ c.toNat ≤ 0x39 := by
    simpa [Char.isDigit, UInt32.le_iff_toNat_le] using hdigit
  omega

-- What begins with another character is solid.
theorem solid_of_begin {c : Char} (hblank : Text.isBlank c = false) (hslash : c ≠ '/')
    (rest : List Char) : Solid (c :: rest) where
  blank := by simpa using hblank
  comment := fun ⟨_, hbehind⟩ => hslash (List.cons.inj hbehind).1.symm

-- Keywords are told apart by their spelling.
theorem ofWord?_eq_some_iff {word : List Char} {k : Keyword} :
    Keyword.ofWord? word = some k ↔ k.spelling.toList = word.map Char.toLower := by
  rw [Keyword.ofWord?]
  constructor
  · intro h
    simpa using List.find?_some h
  · intro h
    rw [← h]
    cases k <;> decide

namespace Spelled

variable {text rest : List Char} {token : Token}

theorem ne_eof (h : Spelled rest text token) : token ≠ .eof := by
  cases h with
  | mark hmark =>
      rintro rfl
      simp [marks] at hmark
  | _ => simp

-- A lexeme begins with its own kind of character.
theorem exists_begin (h : Spelled rest text token) :
    ∃ c more, text = c :: more ∧ Text.isBlank c = false ∧ c ≠ '/' := by
  cases h with
  | @mark c _ hmark =>
      refine ⟨c, [], rfl, ?_⟩
      simp only [marks, List.mem_cons, Prod.mk.injEq, List.not_mem_nil, or_false] at hmark
      obtain ⟨rfl, -⟩ | ⟨rfl, -⟩ | ⟨rfl, -⟩ | ⟨rfl, -⟩ | ⟨rfl, -⟩ | ⟨rfl, -⟩ := hmark <;> decide
  | string => exact ⟨'"', _, rfl, by decide, by decide⟩
  | @whole negative digits hne hdigits | @fractional negative digits _ hne hdigits =>
      obtain ⟨d, digits, rfl⟩ := List.exists_cons_of_ne_nil hne
      have hd := hdigits d List.mem_cons_self
      cases negative with
      | true => exact ⟨'-', _, rfl, by decide, by decide⟩
      | false =>
          refine ⟨d, _, rfl, Scan.isBlank_of_isDigit hd, ?_⟩
          rintro rfl
          exact absurd hd (by decide)
  | @keyword c word k hc =>
      exact ⟨c, word, rfl, isBlank_of_isAlphabetic hc, ne_slash_of_isAlphabetic hc⟩

theorem solid (h : Spelled rest text token) : Solid (text ++ rest) := by
  obtain ⟨c, more, rfl, hblank, hslash⟩ := h.exists_begin
  exact solid_of_begin hblank hslash (more ++ rest)

end Spelled

end WindowDoc.Segmentation
