import WindowDoc.Proofs.Segmentation.Theorems

namespace WindowDoc

-- The texts that can be read as a number in full: digits with a point before, among or behind them
-- or with none, perhaps a sign before and a power of ten after that.

namespace Decimal

def signs : List (List Char) := [[], ['+'], ['-']]

inductive Exponent : List Char → Prop where
  | none : Exponent []
  | some {mark sign digits} : mark ∈ ['e', 'E'] → sign ∈ signs → digits ≠ [] →
      (∀ d ∈ digits, d.isDigit = true) → Exponent (mark :: sign ++ digits)

inductive Text : List Char → Prop where
  | whole {sign digits exponent} : sign ∈ signs → digits ≠ [] →
      (∀ d ∈ digits, d.isDigit = true) → Exponent exponent → Text (sign ++ digits ++ exponent)
  | point {sign digits decimals exponent} : sign ∈ signs → digits ≠ [] ∨ decimals ≠ [] →
      (∀ d ∈ digits, d.isDigit = true) → (∀ d ∈ decimals, d.isDigit = true) →
      Exponent exponent → Text (sign ++ digits ++ '.' :: decimals ++ exponent)

end Decimal

namespace Scan

namespace Literal

-- One digit or more, then perhaps a point and one digit or more.
structure WellFormed (l : Literal) : Prop where
  whole_ne_nil : l.whole ≠ []
  whole : ∀ d ∈ l.whole, d.isDigit = true
  fraction : ∀ d ∈ l.fraction, d.isDigit = true

end Literal

-- The texts that a number scan takes, with the sign that it has met.
def literal (negative : Bool) (cs : List Char) : Literal :=
  ⟨negative, cs.takeWhile Char.isDigit, (fraction (cs.dropWhile Char.isDigit)).1⟩

-- The same scan with a reader of numbers that may refuse a text.
def numberBy (read : List Char → Option Double) (negative : Bool) (cs : List Char) : Scan :=
  let text := (literal negative cs).text
  let result := match read text with
    | some value => .ok (.number value)
    | none => .error (.unknownWord (String.ofList text))
  ⟨text, result, (fraction (cs.dropWhile Char.isDigit)).2⟩

-- A digit, or a minus sign and a digit.
def beginsWithNumber : List Char → Bool
  | '-' :: cs => beginsWithDigit cs
  | cs => beginsWithDigit cs

end Scan

namespace Segmentation

open Scan (Literal)

variable {l : Literal}

theorem sign_mem_signs (negative : Bool) : sign negative ∈ Decimal.signs := by
  cases negative <;> decide

-- Whatever is taken for a number can be read as one.
theorem text_of_wellFormed (h : l.WellFormed) : Decimal.Text l.text := by
  obtain ⟨negative, digits, decimals⟩ := l
  have hsign := sign_mem_signs negative
  cases decimals with
  | nil =>
      have hwhole : Decimal.Text (sign negative ++ digits ++ []) :=
        .whole hsign h.whole_ne_nil h.whole .none
      simpa [Literal.text, sign] using hwhole
  | cons d decimals =>
      have hpoint : Decimal.Text (sign negative ++ digits ++ '.' :: (d :: decimals) ++ []) :=
        .point hsign (.inl h.whole_ne_nil) h.whole h.fraction .none
      simpa [Literal.text, sign] using hpoint

theorem isDigit_of_mem_fraction {d : Char} {cs : List Char} (h : d ∈ (Scan.fraction cs).1) :
    d.isDigit = true := by
  unfold Scan.fraction at h
  split at h
  · split at h
    · exact List.all_eq_true.mp List.all_takeWhile d h
    · cases h
  · cases h

theorem wellFormed_literal (negative : Bool) {cs : List Char}
    (h : Scan.beginsWithDigit cs = true) : (Scan.literal negative cs).WellFormed := by
  obtain ⟨d, more, rfl, hd⟩ := Scan.exists_of_beginsWithDigit h
  constructor
  case whole_ne_nil => simp [Scan.literal, hd]
  case whole => exact List.all_eq_true.mp List.all_takeWhile
  case fraction => exact fun _ => isDigit_of_mem_fraction

-- A reader that refuses no number is never asked for anything else.
theorem exists_numberBy {read : List Char → Option Double}
    (hread : ∀ text, Decimal.Text text → (read text).isSome = true) (negative : Bool)
    {cs : List Char} (h : Scan.beginsWithDigit cs = true) :
    ∃ value, (Scan.numberBy read negative cs).result = .ok (.number value) := by
  have htext := hread _ (text_of_wellFormed (wellFormed_literal negative h))
  obtain ⟨value, hvalue⟩ := Option.isSome_iff_exists.mp htext
  exact ⟨value, by simp only [Scan.numberBy, hvalue]⟩

-- If it reads the nearest number, then this is what is scanned.
theorem numberBy_eq {read : List Char → Option Double}
    (hread : ∀ l : Literal, l.WellFormed → read l.text = some l.decimal.toDouble)
    (negative : Bool) {cs : List Char} (h : Scan.beginsWithDigit cs = true) :
    Scan.numberBy read negative cs = Scan.number negative cs := by
  simp only [Scan.numberBy, hread _ (wellFormed_literal negative h)]
  rfl

theorem Spelled.exists_literal {rest text : List Char} {value : Double}
    (h : Spelled rest text (.number value)) :
    ∃ l : Literal, l.WellFormed ∧ text = l.text ∧ value = l.decimal.toDouble := by
  generalize htoken : Token.number value = token at h
  cases h with
  | @whole negative digits hne hdigits =>
      refine ⟨⟨negative, digits, []⟩, ⟨hne, hdigits, by simp⟩, ?_, ?_⟩
      · simp [Literal.text, sign]
      · rw [Token.number.inj htoken, Literal.decimal, List.append_nil, List.length_nil]
  | @fractional negative digits decimals hne hdigits hne' hdecimals =>
      refine ⟨⟨negative, digits, decimals⟩, ⟨hne, hdigits, hdecimals⟩, ?_, Token.number.inj htoken⟩
      simp [Literal.text, sign, hne']
  | mark hmark => simp [marks, ← htoken] at hmark
  | _ => cases htoken

-- Every literal is scanned whole.
theorem scan_of_wellFormed (h : l.WellFormed) :
    Scan.ofText l.text = ⟨l.text, .ok (.number l.decimal.toDouble), []⟩ := by
  have hspelled : Spelled [] l.text (.number l.decimal.toDouble) := by
    obtain ⟨negative, digits, decimals⟩ := l
    cases decimals with
    | nil =>
        have hwhole : Spelled [] (sign negative ++ digits) _ := .whole h.whole_ne_nil h.whole rfl rfl
        simpa [Literal.text, Literal.decimal, sign] using hwhole
    | cons d decimals =>
        have hfractional : Spelled [] (sign negative ++ digits ++ '.' :: d :: decimals) _ :=
          .fractional h.whole_ne_nil h.whole (List.cons_ne_nil d decimals) h.fraction rfl
        simpa [Literal.text, Literal.decimal, sign] using hfractional
  simpa using hspelled.scan

-- What begins like a number is one, as far as its digits go.
theorem exists_spelled_number {left : List Char} (h : Scan.beginsWithNumber left = true) :
    ∃ text rest value, left = text ++ rest ∧ Spelled rest text (.number value) := by
  have hresult : ∃ value, (Scan.ofText left).result = .ok (.number value) := by
    unfold Scan.beginsWithNumber at h
    split at h
    · rw [Scan.ofText_of_minus h]
      exact ⟨_, rfl⟩
    · obtain ⟨d, more, rfl, hd⟩ := Scan.exists_of_beginsWithDigit h
      rw [Scan.ofText_of_isDigit hd]
      exact ⟨_, rfl⟩
  obtain ⟨value, hvalue⟩ := hresult
  cases left with
  | nil => cases h
  | cons c cs =>
      exact ⟨_, _, value, (Scan.ofText_split (c :: cs)).symm, spelled_of_ofText hvalue⟩

end Segmentation

end WindowDoc
