import WindowDoc.Text.Alphabetic
import WindowDoc.Text.Numeric

namespace WindowDoc.Text

-- A character that may continue a bare word: a letter or numeral of any script, or `_`.
def isWordPart (c : Char) : Bool :=
  isAlphabetic c || isNumeric c || c == '_'

-- What may begin a word may also continue it, so a word is one maximal run.
theorem isWordPart_of_isAlphabetic {c : Char} (h : isAlphabetic c = true) :
    isWordPart c = true := by
  simp [isWordPart, h]

-- The letters of ASCII are letters.
theorem isAlphabetic_of_isAlpha {c : Char} (h : c.isAlpha = true) : isAlphabetic c = true := by
  have hrange : (0x41 ≤ c.toNat ∧ c.toNat ≤ 0x5a) ∨ (0x61 ≤ c.toNat ∧ c.toNat ≤ 0x7a) := by
    have hcases : (decide ('A'.val ≤ c.val ∧ c.val ≤ 'Z'.val)
        || decide ('a'.val ≤ c.val) && decide (c.val ≤ 'z'.val)) = true := h
    simpa [UInt32.le_iff_toNat_le] using hcases
  rw [isAlphabetic, covers_iff alphabeticRanges_ascending]
  cases hrange with
  | inl hupper => exact ⟨(0x41, 0x5a), by decide +kernel, hupper⟩
  | inr hlower => exact ⟨(0x61, 0x7a), by decide +kernel, hlower⟩

end WindowDoc.Text
