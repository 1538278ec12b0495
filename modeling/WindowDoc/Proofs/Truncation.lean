import Mathlib.Data.List.Induction
import Mathlib.Data.Rat.Floor
import WindowDoc.Proofs.Rounding
import WindowDoc.Scan

namespace WindowDoc

theorem Numeral.value_append (ds es : List Char) :
    value (ds ++ es) = value ds * 10 ^ es.length + value es := by
  induction es using List.reverseRecOn with
  | nil => simp [value]
  | append_singleton es e ih =>
      rw [← List.append_assoc, value_append_singleton, value_append_singleton, ih,
        List.length_append, List.length_singleton, Nat.pow_succ]
      ring

-- The whole number next to `q` on the way to zero.
def towardZero (q : ℚ) : ℤ := if 0 ≤ q then ⌊q⌋ else ⌈q⌉

-- The number itself, or the end of the 32-bit range that it lies beyond.
def clamp (n : ℤ) : ℤ := max (-2147483648) (min 2147483647 n)

namespace Scan.Literal

-- What the digits say, without the sign.
def magnitude (l : Literal) : ℚ :=
  Numeral.value l.whole + Numeral.value l.fraction / 10 ^ l.fraction.length

def value (l : Literal) : ℚ := if l.negative then -l.magnitude else l.magnitude

-- The whole number that a document with the literal hands on.
def passed (l : Literal) : Int32 := l.decimal.toDouble.toInt32

-- The value without its fraction, as far as 32 bits reach.
def truncated (l : Literal) : ℤ := clamp (towardZero l.value)

-- The digits as one number, and what it is divided by.
def num (l : Literal) : Nat := Numeral.value (l.whole ++ l.fraction)

def den (l : Literal) : Nat := 10 ^ l.fraction.length

theorem den_pos (l : Literal) : 0 < l.den := Nat.pow_pos (by decide)

theorem magnitude_eq (l : Literal) : l.magnitude = l.num / l.den := by
  have hden : (10 : ℚ) ^ l.fraction.length ≠ 0 := pow_ne_zero _ (by norm_num)
  rw [magnitude, num, den, Numeral.value_append]
  push_cast
  rw [add_div, mul_div_cancel_right₀ _ hden]

theorem magnitude_nonneg (l : Literal) : 0 ≤ l.magnitude := by
  rw [magnitude_eq]
  positivity

theorem towardZero_value (l : Literal) :
    towardZero l.value = if l.negative then -((l.num / l.den : Nat) : ℤ) else (l.num / l.den : Nat) := by
  have hfloor : ⌊l.magnitude⌋ = ((l.num / l.den : Nat) : ℤ) := by
    rw [magnitude_eq, Rat.floor_natCast_div_natCast, Int.natCast_div]
  have hnonneg := l.magnitude_nonneg
  cases hneg : l.negative with
  | false =>
      simp only [towardZero, value, hneg, Bool.false_eq_true, if_false, if_pos hnonneg, hfloor]
  | true =>
      simp only [towardZero, value, hneg, if_true]
      split
      · have hzero : l.magnitude = 0 := by linarith
        rw [← hfloor, hzero]
        simp
      · rw [Int.ceil_neg, hfloor]

theorem toDouble_decimal (l : Literal) :
    l.decimal.toDouble = .ofCode l.negative (Double.nearestCode l.num l.den) := by
  rw [Decimal.toDouble, Nat.pow_eq]
  rfl

theorem isNearest_toDouble (l : Literal) : Double.IsNearest l.num l.den l.decimal.toDouble := by
  rw [toDouble_decimal]
  exact Double.isNearest_ofCode l.negative l.den_pos

theorem toInt_passed (l : Literal) :
    l.passed.toInt = if l.negative then max (-2147483648) (-(Double.nearestWhole l.num l.den : ℤ))
      else min 2147483647 (Double.nearestWhole l.num l.den : ℤ) := by
  have hrange := l.decimal.toDouble.truncate_mem_range
  rw [passed, Double.toInt32, Int32.toInt_ofInt_of_le (by omega) (by omega), Double.truncate,
    toDouble_decimal, Double.units_ofCode, Double.isNaN_ofCode _ (Double.nearestCode_le _ _),
    Double.negative_ofCode _ (Double.nearestCode_lt_signBit _ _), Double.nearestWhole,
    Int.natCast_div, if_neg (by decide)]

theorem truncated_eq (l : Literal) :
    l.truncated = if l.negative then max (-2147483648) (-((l.num / l.den : Nat) : ℤ))
      else min 2147483647 ((l.num / l.den : Nat) : ℤ) := by
  have hnonneg := Int.natCast_nonneg (l.num / l.den)
  rw [truncated, clamp, towardZero_value]
  split <;> omega

-- Below the range nothing is lost by rounding, and a whole number more may be reached.

theorem le_nearestWhole (l : Literal) :
    min (2 ^ 31) (l.num / l.den) ≤ Double.nearestWhole l.num l.den := by
  apply Double.le_nearestWhole l.den_pos (by omega)
  exact (Nat.mul_le_mul_right _ (Nat.min_le_right _ _)).trans (Nat.div_mul_le_self _ _)

theorem nearestWhole_le (l : Literal) (h : l.num / l.den < 2 ^ 31) :
    Double.nearestWhole l.num l.den ≤ l.num / l.den + 1 := by
  apply Double.nearestWhole_le l.den_pos (by omega)
  rw [Nat.mul_comm]
  exact Nat.le_of_lt (Nat.lt_mul_div_succ l.num l.den_pos)

-- Up to six decimals leave a gap below the next whole number that rounding does not close.
theorem nearestWhole_eq (l : Literal) (hplaces : l.fraction.length ≤ 6)
    (h : l.num / l.den < 2 ^ 31) : Double.nearestWhole l.num l.den = l.num / l.den := by
  have hden : l.den ≤ 2 ^ 22 :=
    (Nat.pow_le_pow_right (by decide) hplaces).trans (by decide)
  have hnext : l.num + 1 ≤ (l.num / l.den + 1) * l.den := by
    rw [Nat.mul_comm]
    exact Nat.lt_mul_div_succ l.num l.den_pos
  have hlt : Double.nearestWhole l.num l.den < l.num / l.den + 1 := by
    apply Double.nearestWhole_lt l.den_pos (Nat.succ_pos _) (by omega)
    have hscaled := Nat.mul_le_mul_right (2 ^ 22) hnext
    rw [Nat.add_mul, Nat.one_mul] at hscaled
    rw [Nat.sub_mul, Nat.one_mul, Nat.mul_right_comm]
    exact Nat.le_sub_of_add_le ((Nat.add_le_add_left hden _).trans hscaled)
  have hle := l.le_nearestWhole
  omega

theorem toInt_passed_eq (l : Literal) (hplaces : l.fraction.length ≤ 6) :
    l.passed.toInt = l.truncated := by
  have hlow := l.le_nearestWhole
  have hsame := l.nearestWhole_eq hplaces
  rw [toInt_passed, truncated_eq]
  split <;> omega

-- No digits make a zero, with a sign or without.
theorem num_eq_zero (l : Literal) (h : l.magnitude ≤ 0) : l.num = 0 := by
  have hzero : l.magnitude = 0 := le_antisymm h l.magnitude_nonneg
  have hden : (l.den : ℚ) ≠ 0 := Nat.cast_ne_zero.mpr l.den_pos.ne'
  rw [magnitude_eq, div_eq_zero_iff, or_iff_left hden] at hzero
  exact_mod_cast hzero

theorem nearestWhole_zero (den : Nat) (hden : 0 < den) : Double.nearestWhole 0 den = 0 := by
  have h := Double.nearestWhole_le hden (by decide : 0 < 2 ^ 53) (by omega : 0 ≤ 0 * den)
  omega

theorem passed_near (l : Literal) :
    (0 ≤ l.value → l.truncated ≤ l.passed.toInt ∧ l.passed.toInt ≤ l.truncated + 1) ∧
      (l.value ≤ 0 → l.truncated - 1 ≤ l.passed.toInt ∧ l.passed.toInt ≤ l.truncated) := by
  have hlow := l.le_nearestWhole
  have hhigh := l.nearestWhole_le
  have hzero (h : l.magnitude ≤ 0) : Double.nearestWhole l.num l.den = 0 ∧ l.num / l.den = 0 := by
    rw [l.num_eq_zero h, nearestWhole_zero l.den l.den_pos, Nat.zero_div]
    exact ⟨rfl, rfl⟩
  rw [toInt_passed, truncated_eq, value]
  split
  · refine ⟨fun h => ?_, fun _ => by omega⟩
    have hsame := hzero (by linarith)
    omega
  · refine ⟨fun _ => by omega, fun h => ?_⟩
    have hsame := hzero h
    omega

theorem nearestWhole_mono {l l' : Literal} (h : l.magnitude ≤ l'.magnitude) :
    Double.nearestWhole l.num l.den ≤ Double.nearestWhole l'.num l'.den := by
  have hden : (0 : ℚ) < l.den := Nat.cast_pos.mpr l.den_pos
  have hden' : (0 : ℚ) < l'.den := Nat.cast_pos.mpr l'.den_pos
  rw [magnitude_eq, magnitude_eq, div_le_div_iff₀ hden hden'] at h
  exact Double.nearestWhole_mono l.den_pos l'.den_pos (by exact_mod_cast h)

theorem passed_mono {l l' : Literal} (h : l.value ≤ l'.value) : l.passed ≤ l'.passed := by
  have hnonneg := l.magnitude_nonneg
  have hnonneg' := l'.magnitude_nonneg
  rw [Int32.le_iff_toInt_le, toInt_passed, toInt_passed]
  simp only [value] at h
  split at h <;> split at h
  · have hle := nearestWhole_mono (neg_le_neg_iff.mp h)
    simp only [*, if_true]
    omega
  · simp only [*, if_true, Bool.false_eq_true, if_false]
    omega
  · have hzero := l.num_eq_zero (by linarith)
    have hzero' := l'.num_eq_zero (by linarith)
    have hwhole := nearestWhole_zero l.den l.den_pos
    have hwhole' := nearestWhole_zero l'.den l'.den_pos
    simp only [*, if_true, Bool.false_eq_true, if_false]
    omega
  · have hle := nearestWhole_mono h
    simp only [*, Bool.false_eq_true, if_false]
    omega

end Scan.Literal

end WindowDoc
