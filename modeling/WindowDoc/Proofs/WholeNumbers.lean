import Mathlib.Algebra.Group.Nat.Defs
import WindowDoc.Double.Rounding

namespace WindowDoc

namespace Double

-- Whole numbers of at most 53 bits are read without rounding, and so are all that have 32.

-- The exponent is a variable so that the power is never worked out.
theorem one_eq {k : Nat} (hk : k = 1074) : one = 2 ^ k := by
  rw [one, ← hk, Nat.one_shiftLeft]

theorem one_pos : 0 < one := by
  rw [one_eq rfl]
  apply Nat.pow_pos
  exact Nat.zero_lt_two

theorem roundQuotient_mul {den : Nat} (whole : Nat) (hden : 0 < den) :
    roundQuotient (whole * den) den = whole := by
  simp only [roundQuotient, Nat.mul_mod_left, Nat.mul_div_left whole hden, Nat.mul_zero, hden,
    if_true]

theorem log2_mul_two_pow {n : Nat} (hpos : 0 < n) (k : Nat) :
    Nat.log2 (n * 2 ^ k) = Nat.log2 n + k := by
  have hn : n ≠ 0 := by omega
  have hpow : 0 < 2 ^ k := Nat.two_pow_pos k
  have hlow := Nat.mul_le_mul_right (2 ^ k) (Nat.log2_self_le hn)
  have hhigh := Nat.mul_lt_mul_of_pos_right (@Nat.lt_log2_self n) hpow
  rw [Nat.log2_eq_iff (Nat.mul_ne_zero hn (Nat.ne_of_gt hpow)), Nat.pow_add,
    Nat.add_right_comm, Nat.pow_add]
  exact ⟨hlow, hhigh⟩

-- The bits that the code keeps of a whole number: as many more behind it as make up 53.
def kept (n : Nat) : Nat := n * 2 ^ (52 - Nat.log2 n)

theorem kept_bounds {n : Nat} (hpos : 0 < n) (hlt : n < 2 ^ 53) :
    binade ≤ kept n ∧ kept n < binade + binade := by
  have hn : n ≠ 0 := by omega
  have hlog : Nat.log2 n < 53 := (Nat.log2_lt hn).mpr hlt
  have hsplit : 2 ^ Nat.log2 n * 2 ^ (52 - Nat.log2 n) = 2 ^ 52 := by
    rw [← Nat.pow_add, Nat.add_sub_of_le (by omega)]
  have hlow := Nat.mul_le_mul_right (2 ^ (52 - Nat.log2 n)) (Nat.log2_self_le hn)
  have hhigh := Nat.mul_lt_mul_of_pos_right (@Nat.lt_log2_self n)
    (Nat.two_pow_pos (52 - Nat.log2 n))
  rw [Nat.pow_succ, Nat.mul_right_comm, hsplit] at hhigh
  rw [hsplit] at hlow
  simp only [binade, kept]
  omega

theorem kept_mul {n : Nat} (hpos : 0 < n) (hlt : n < 2 ^ 53) (k : Nat) :
    kept n * 2 ^ (Nat.log2 n + k) = n * 2 ^ (52 + k) := by
  have hlog : Nat.log2 n < 53 := (Nat.log2_lt (by omega)).mpr hlt
  have hexponent : 52 - Nat.log2 n + (Nat.log2 n + k) = 52 + k := by omega
  rw [kept, Nat.mul_assoc, ← Nat.pow_add, hexponent]

-- The same for a number of halves, quarters or smaller parts, `2 ^ k` of which make a whole.

theorem one_eq_mul {k : Nat} (hk : k ≤ 1074) : one = 2 ^ (1074 - k) * 2 ^ k := by
  rw [← Nat.pow_add, Nat.sub_add_cancel hk, one_eq rfl]

theorem kept_mul_one {n k : Nat} (hpos : 0 < n) (hlt : n < 2 ^ 53) (hk : k ≤ 1022) :
    kept n * (2 ^ k * 2 ^ (Nat.log2 n + (1022 - k))) = n * one := by
  have hexponent : 52 + (1022 - k) = 1074 - k := by omega
  rw [Nat.mul_comm (2 ^ k), ← Nat.mul_assoc, kept_mul hpos hlt, hexponent, Nat.mul_assoc,
    ← one_eq_mul (by omega)]

theorem nearestCode_dyadic {n k : Nat} (hpos : 0 < n) (hlt : n < 2 ^ 53) (hk : k ≤ 1022) :
    nearestCode n (2 ^ k) = (Nat.log2 n + (1022 - k)) * binade + kept n := by
  have hlog : Nat.log2 n < 53 := (Nat.log2_lt (by omega)).mpr hlt
  have hkept := kept_bounds hpos hlt
  have hscaled : n * one / 2 ^ k = n * 2 ^ (1074 - k) := by
    rw [one_eq_mul (by omega : k ≤ 1074), ← Nat.mul_assoc, Nat.mul_div_left _ (Nat.two_pow_pos k)]
  have hstep : Nat.log2 (n * one / 2 ^ k) - 52 = Nat.log2 n + (1022 - k) := by
    rw [hscaled, log2_mul_two_pow hpos]
    omega
  simp only [nearestCode, hstep, Nat.shiftLeft_eq]
  rw [← kept_mul_one hpos hlt hk,
    roundQuotient_mul _ (Nat.mul_pos (Nat.two_pow_pos k) (Nat.two_pow_pos _))]
  apply Nat.min_eq_right
  simp only [binade, infiniteCode] at *
  omega

theorem toNat_bits_ofCode (negative : Bool) {code : Nat} (h : code < signBit) :
    (ofCode negative code).bits.toNat = if negative then signBit + code else code := by
  rw [ofCode, UInt64.toNat_ofNat', Nat.mod_eq_of_lt]
  simp only [signBit] at *
  split <;> omega

theorem code_ofCode (negative : Bool) {code : Nat} (h : code < signBit) :
    (ofCode negative code).code = code := by
  rw [Double.code, toNat_bits_ofCode negative h]
  cases negative
  · exact Nat.mod_eq_of_lt h
  · rw [if_pos rfl, Nat.add_mod_left, Nat.mod_eq_of_lt h]

theorem negative_ofCode (negative : Bool) {code : Nat} (h : code < signBit) :
    (ofCode negative code).negative = negative := by
  rw [Double.negative, toNat_bits_ofCode negative h]
  cases negative
  · simpa using h
  · simp

theorem nearestCode_le (num den : Nat) : nearestCode num den ≤ infiniteCode :=
  Nat.min_le_left _ _

theorem nearestCode_lt_signBit (num den : Nat) : nearestCode num den < signBit := by
  have h := nearestCode_le num den
  simp only [infiniteCode, signBit] at *
  omega

theorem units_dyadic (negative : Bool) {n k : Nat} (hlt : n < 2 ^ 53) (hk : k ≤ 1022) :
    (ofCode negative (nearestCode n (2 ^ k))).units * 2 ^ k = n * one := by
  rw [units, code_ofCode negative (nearestCode_lt_signBit n (2 ^ k))]
  by_cases hpos : 0 < n
  · have hkept := kept_bounds hpos hlt
    have hexponent : nearestCode n (2 ^ k) / binade = Nat.log2 n + (1022 - k) + 1 := by
      rw [nearestCode_dyadic hpos hlt hk]
      simp only [binade] at *
      omega
    have hfraction : binade + nearestCode n (2 ^ k) % binade = kept n := by
      rw [nearestCode_dyadic hpos hlt hk]
      simp only [binade] at *
      omega
    simp only [hexponent, hfraction, Nat.shiftLeft_eq]
    rw [if_neg (Nat.succ_ne_zero _), Nat.add_sub_cancel, Nat.mul_right_comm, Nat.mul_assoc]
    exact kept_mul_one hpos hlt hk
  · obtain rfl : n = 0 := by omega
    have hcode : nearestCode 0 (2 ^ k) = 0 := by
      simp [nearestCode, roundQuotient, Nat.log2_zero]
    rw [hcode, Nat.zero_mul]
    simp

theorem units_whole (negative : Bool) {n : Nat} (hlt : n < 2 ^ 53) :
    (ofCode negative (nearestCode n 1)).units = n * one := by
  have hunits := units_dyadic negative hlt (Nat.zero_le 1022)
  rwa [Nat.pow_zero, Nat.mul_one] at hunits

theorem isNaN_ofCode (negative : Bool) {code : Nat} (h : code ≤ infiniteCode) :
    (ofCode negative code).isNaN = false := by
  have hlt : code < signBit := by
    simp only [infiniteCode, signBit] at *
    omega
  rw [isNaN, code_ofCode negative hlt, decide_eq_false_iff_not]
  exact Nat.not_lt_of_le h

end Double

namespace Decimal

theorem truncate_whole (negative : Bool) {n : Nat} (hlt : n < 2 ^ 53) :
    (Decimal.mk negative n 0).toDouble.truncate =
      if negative then max (-2147483648) (-(n : Int)) else min 2147483647 (n : Int) := by
  have hwhole : ((n * Double.one : Nat) : Int) / (Double.one : Nat) = n := by
    rw [← Int.natCast_ediv, Nat.mul_div_left n Double.one_pos]
  rw [toDouble, Nat.pow_eq, Nat.pow_zero, Double.truncate,
    Double.isNaN_ofCode negative (Double.nearestCode_le n 1),
    Double.negative_ofCode negative (Double.nearestCode_lt_signBit n 1),
    Double.units_whole negative hlt, hwhole]
  rfl

-- The decimal that a 32-bit number is written as.
def ofInt32 (n : Int32) : Decimal := ⟨decide (n.toInt < 0), n.toInt.natAbs, 0⟩

theorem toInt32_ofInt32 (n : Int32) : (ofInt32 n).toDouble.toInt32 = n := by
  have hlow := n.le_toInt
  have hhigh := n.toInt_lt
  have htruncate : (ofInt32 n).toDouble.truncate = n.toInt := by
    rw [ofInt32, truncate_whole _ (by omega)]
    by_cases hneg : n.toInt < 0
    · simp only [hneg, decide_true, if_true]
      omega
    · simp only [hneg, decide_false, Bool.false_eq_true, if_false]
      omega
  rw [Double.toInt32, htruncate, Int32.ofInt_toInt]

end Decimal

end WindowDoc
