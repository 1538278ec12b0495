import WindowDoc.Numeral
import WindowDoc.Text.Extending
import WindowDoc.Text.Unprintable

namespace WindowDoc.Text

-- A character by its code point in hexadecimal.
def codePoint (c : Char) : List Char :=
  ['\\', 'u', '\x7b'] ++ Numeral.digits 16 c.toNat ++ ['\x7d']

-- One character inside quotation marks of the given kind. The backslash, the mark itself and
-- four controls have short forms. A character that could not be seen is shown by its code
-- point, and every other one stands for itself.
def escaped (mark c : Char) : List Char :=
  if c = '\x00' then ['\\', '0']
  else if c = '\t' then ['\\', 't']
  else if c = '\r' then ['\\', 'r']
  else if c = '\n' then ['\\', 'n']
  else if c = '\\' ∨ c = mark then ['\\', c]
  else if isExtending c || isUnprintable c then codePoint c
  else [c]

-- A text as messages quote it.
def quoted (s : String) : String :=
  String.ofList (['"'] ++ s.toList.flatMap (escaped '"') ++ ['"'])

-- What can be seen in ASCII is quoted as it is, but for the backslash and the mark.
theorem escaped_of_visible {mark c : Char} (hlow : 0x20 ≤ c.toNat) (hhigh : c.toNat < 0x7f)
    (hslash : c ≠ '\\') (hmark : c ≠ mark) : escaped mark c = [c] := by
  have hcontrol {control : Char} (hc : control.toNat < 0x20) : c ≠ control := by
    rintro rfl
    exact Nat.not_lt_of_le hlow hc
  rw [escaped, if_neg (hcontrol (by decide)), if_neg (hcontrol (by decide)),
    if_neg (hcontrol (by decide)), if_neg (hcontrol (by decide)), if_neg (not_or_intro hslash hmark),
    isExtending_of_lt hhigh, isUnprintable_of_le_of_lt hlow hhigh]
  rfl

theorem quoted_of_visible {s : String} (h : ∀ c ∈ s.toList, (0x20 ≤ c.toNat ∧ c.toNat < 0x7f) ∧
    c ≠ '\\' ∧ c ≠ '"') : quoted s = String.ofList (['"'] ++ s.toList ++ ['"']) := by
  have hescaped : ∀ c ∈ s.toList, escaped '"' c = [c] := by
    intro c hc
    obtain ⟨⟨hlow, hhigh⟩, hslash, hmark⟩ := h c hc
    exact escaped_of_visible hlow hhigh hslash hmark
  rw [quoted, List.flatMap_def, List.map_congr_left hescaped, ← List.flatMap_def,
    List.flatMap_singleton']

-- A single character as messages quote it.
def quotedChar (c : Char) : String :=
  String.ofList (['\''] ++ escaped '\'' c ++ ['\''])

end WindowDoc.Text
