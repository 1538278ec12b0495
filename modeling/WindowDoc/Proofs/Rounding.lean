import Mathlib.Data.Nat.Log
import Mathlib.Tactic.Linarith
import Mathlib.Tactic.Ring
import WindowDoc.Proofs.WholeNumbers

namespace WindowDoc.Double

theorem div_le_div_of_cross {num den num' den' : Nat} (hden : 0 < den) (hden' : 0 < den')
    (h : num * den' ≤ num' * den) : num / den ≤ num' / den' := by
  rw [Nat.le_div_iff_mul_le hden', ← Nat.mul_le_mul_right_iff hden, Nat.mul_right_comm]
  exact (Nat.mul_le_mul_right den' (Nat.div_mul_le_self num den)).trans h

theorem div_le_roundQuotient (num den : Nat) : num / den ≤ roundQuotient num den := by
  simp only [roundQuotient]
  repeat' split
  all_goals omega

theorem roundQuotient_le_div_succ (num den : Nat) : roundQuotient num den ≤ num / den + 1 := by
  simp only [roundQuotient]
  repeat' split
  all_goals omega

-- A larger quotient is never rounded to a smaller number.
theorem roundQuotient_mono {num den num' den' : Nat} (hden : 0 < den) (hden' : 0 < den')
    (h : num * den' ≤ num' * den) : roundQuotient num den ≤ roundQuotient num' den' := by
  have hbelow := div_le_div_of_cross hden hden' h
  by_cases hsame : num / den = num' / den'
  · have hremainder : num % den * den' ≤ num' % den' * den := by
      have hnum : num * den' = den * (num / den) * den' + num % den * den' := by
        rw [← Nat.add_mul, Nat.div_add_mod]
      have hnum' : num' * den = den' * (num' / den') * den + num' % den' * den := by
        rw [← Nat.add_mul, Nat.div_add_mod]
      have hwhole : den * (num / den) * den' = den' * (num' / den') * den := by
        rw [hsame]
        ring
      omega
    -- what is rounded down or up stays so further down or up
    have hdown : 2 * (num' % den') < den' → 2 * (num % den) < den := by
      intro hlt
      by_contra hge
      nlinarith
    have hup : den < 2 * (num % den) → den' < 2 * (num' % den') := by
      intro hlt
      by_contra hge
      nlinarith
    simp only [roundQuotient, hsame]
    repeat' split
    all_goals omega
  · have hup := roundQuotient_le_div_succ num den
    have hdown := div_le_roundQuotient num' den'
    omega

-- Whatever is kept has at most 53 bits, and no fewer where others are dropped.

theorem roundQuotient_le (scaled den : Nat) :
    roundQuotient scaled (den <<< (Nat.log2 (scaled / den) - 52)) ≤ binade + binade := by
  have hlog : scaled / den < 2 ^ (53 + (Nat.log2 (scaled / den) - 52)) :=
    Nat.lt_of_lt_of_le Nat.lt_log2_self (Nat.pow_le_pow_right Nat.two_pos (by omega))
  have hbits : scaled / (den <<< (Nat.log2 (scaled / den) - 52)) < 2 ^ 53 := by
    rw [Nat.shiftLeft_eq, ← Nat.div_div_eq_div_mul]
    rw [Nat.pow_add] at hlog
    exact Nat.div_lt_of_lt_mul (by rwa [Nat.mul_comm])
  have hup := roundQuotient_le_div_succ scaled (den <<< (Nat.log2 (scaled / den) - 52))
  simp only [binade]
  omega

theorem binade_le_div {scaled den : Nat} (h : 0 < Nat.log2 (scaled / den) - 52) :
    binade ≤ scaled / (den <<< (Nat.log2 (scaled / den) - 52)) := by
  have hne : scaled / den ≠ 0 := by
    intro hzero
    rw [hzero] at h
    simp at h
  have hlog : 2 ^ (52 + (Nat.log2 (scaled / den) - 52)) ≤ scaled / den := by
    rw [Nat.add_sub_of_le (by omega)]
    exact Nat.log2_self_le hne
  rw [Nat.shiftLeft_eq, ← Nat.div_div_eq_div_mul, Nat.le_div_iff_mul_le (Nat.two_pow_pos _)]
  rwa [Nat.pow_add] at hlog

theorem le_roundQuotient {scaled den : Nat} (h : 0 < Nat.log2 (scaled / den) - 52) :
    binade ≤ roundQuotient scaled (den <<< (Nat.log2 (scaled / den) - 52)) :=
  (binade_le_div h).trans (div_le_roundQuotient _ _)

theorem nearestCode_mono {num den num' den' : Nat} (hden : 0 < den) (hden' : 0 < den')
    (h : num * den' ≤ num' * den) : nearestCode num den ≤ nearestCode num' den' := by
  have hscaled : num * one * den' ≤ num' * one * den := by
    rw [Nat.mul_right_comm, Nat.mul_right_comm num']
    exact Nat.mul_le_mul_right one h
  have hdiv : num * one / den ≤ num' * one / den' := div_le_div_of_cross hden hden' hscaled
  have hlog : Nat.log2 (num * one / den) ≤ Nat.log2 (num' * one / den') := by
    simp only [Nat.log2_eq_log_two]
    exact Nat.log_mono_right hdiv
  have hkept := roundQuotient_le (num * one) den
  have hkept' := @le_roundQuotient (num' * one) den'
  simp only [nearestCode]
  apply min_le_min_left
  by_cases hsame : Nat.log2 (num * one / den) - 52 = Nat.log2 (num' * one / den') - 52
  · rw [hsame]
    apply Nat.add_le_add_left
    apply roundQuotient_mono
    · rw [Nat.shiftLeft_eq]
      exact Nat.mul_pos hden (Nat.two_pow_pos _)
    · rw [Nat.shiftLeft_eq]
      exact Nat.mul_pos hden' (Nat.two_pow_pos _)
    · rw [Nat.shiftLeft_eq, Nat.shiftLeft_eq, ← Nat.mul_assoc, ← Nat.mul_assoc]
      exact Nat.mul_le_mul_right _ hscaled
  -- with more bits dropped the kept ones begin a binade or more further up
  · have hlt : Nat.log2 (num * one / den) - 52 < Nat.log2 (num' * one / den') - 52 := by omega
    have hbinades := Nat.mul_le_mul_right binade (Nat.succ_le_of_lt hlt)
    have hmore := hkept' (by omega)
    rw [Nat.succ_mul] at hbinades
    omega

theorem units_mono {x y : Double} (h : x.code ≤ y.code) : x.units ≤ y.units := by
  simp only [units, Nat.shiftLeft_eq]
  have hx := Nat.div_add_mod x.code binade
  have hy := Nat.div_add_mod y.code binade
  have hfraction : x.code % binade < binade := Nat.mod_lt _ (by decide)
  have hle : x.code / binade ≤ y.code / binade := Nat.div_le_div_right h
  generalize x.code / binade = e at *
  generalize x.code % binade = f at *
  generalize y.code / binade = e' at *
  generalize y.code % binade = f' at *
  by_cases hsame : e = e'
  · subst hsame
    have hle : f ≤ f' := by omega
    split
    · exact hle
    · exact Nat.mul_le_mul_right _ (Nat.add_le_add_left hle binade)
  -- a binade begins where the one before it ends
  · have hend : (if e = 0 then f else (binade + f) * 2 ^ (e - 1)) ≤ binade * 2 ^ e := by
      by_cases hzero : e = 0
      · subst hzero
        simp only [if_true, Nat.pow_zero, Nat.mul_one]
        exact Nat.le_of_lt hfraction
      · obtain ⟨e, rfl⟩ := Nat.exists_eq_succ_of_ne_zero hzero
        rw [if_neg hzero, Nat.succ_sub_one, Nat.pow_succ', ← Nat.mul_assoc]
        exact Nat.mul_le_mul_right _ (by omega)
    have hpow : 2 ^ e ≤ 2 ^ (e' - 1) := Nat.pow_le_pow_right Nat.two_pos (by omega)
    rw [if_neg (by omega : e' ≠ 0)]
    exact hend.trans (Nat.mul_le_mul (Nat.le_add_right _ _) hpow)

-- The magnitude nearest to a quotient, counted in units.
def nearestUnits (num den : Nat) : Nat := (ofCode false (nearestCode num den)).units

theorem units_ofCode (negative : Bool) (num den : Nat) :
    (ofCode negative (nearestCode num den)).units = nearestUnits num den := by
  simp only [nearestUnits, units, code_ofCode _ (nearestCode_lt_signBit num den)]

theorem nearestUnits_mono {num den num' den' : Nat} (hden : 0 < den) (hden' : 0 < den')
    (h : num * den' ≤ num' * den) : nearestUnits num den ≤ nearestUnits num' den' := by
  apply units_mono
  rw [code_ofCode false (nearestCode_lt_signBit num den),
    code_ofCode false (nearestCode_lt_signBit num' den')]
  exact nearestCode_mono hden hden' h

theorem nearestUnits_whole {n : Nat} (hlt : n < 2 ^ 53) : nearestUnits n 1 = n * one :=
  units_whole false hlt

-- How far a quotient is from a whole number, times the denominator.
def gap (num den m : Nat) : Nat := ((m * den : Nat) - (num : Int)).natAbs

theorem gap_mul_div_add (num den : Nat) (k : Int) (m : Nat) (hm : (m : Int) = (num / den : Nat) + k) :
    gap num den m = (k * den - (num % den : Nat)).natAbs := by
  have hnum : (num : Int) = den * (num / den : Nat) + (num % den : Nat) := by
    exact_mod_cast (Nat.div_add_mod num den).symm
  have hdiff : ((m * den : Nat) : Int) - num = k * den - (num % den : Nat) := by
    rw [Nat.cast_mul, hm, hnum]
    push_cast
    ring
  rw [gap, hdiff]

theorem gap_roundQuotient_le {num den : Nat} (hden : 0 < den) (m : Nat) :
    gap num den (roundQuotient num den) < gap num den m ∨
      gap num den (roundQuotient num den) = gap num den m ∧
        (m = roundQuotient num den ∨ roundQuotient num den % 2 = 0) := by
  obtain ⟨k, hk⟩ : ∃ k : Int, (m : Int) = (num / den : Nat) + k := ⟨m - (num / den : Nat), by omega⟩
  have hmod := Nat.mod_lt num hden
  -- multiples of the denominator on either side of zero and of the denominator itself
  have hbelow : k ≤ -1 → k * den ≤ -den := by intro h; nlinarith
  have habove : 2 ≤ k → 2 * den ≤ k * den := by intro h; nlinarith
  have hzero : k = 0 → k * den = 0 := by rintro rfl; simp
  have hone : k = 1 → k * den = den := by rintro rfl; simp
  rw [gap_mul_div_add num den k m hk]
  simp only [roundQuotient]
  split
  · rw [gap_mul_div_add num den 0 _ (by omega)]
    omega
  split
  · rw [gap_mul_div_add num den 1 _ (by omega)]
    omega
  · rcases Nat.mod_two_eq_zero_or_one (num / den) with heven | hodd
    · rw [heven, gap_mul_div_add num den 0 _ (by omega)]
      omega
    · rw [hodd, gap_mul_div_add num den 1 _ (by omega)]
      omega

-- Below the quotient a smaller number is further off.
theorem gap_lt_of_lt {num den m m' : Nat} (hden : 0 < den) (hless : m' < m) (h : m * den ≤ num) :
    gap num den m < gap num den m' := by
  have hcross := Nat.mul_lt_mul_of_pos_right hless hden
  simp only [gap]
  omega

theorem gap_shift (num den m step : Nat) :
    gap num den (m * 2 ^ step) = gap num (den <<< step) m := by
  rw [gap, gap, Nat.shiftLeft_eq, Nat.mul_assoc, Nat.mul_comm den]

theorem mul_le_of_le_div_shift {num den m step : Nat} (h : m ≤ num / (den <<< step)) :
    m * 2 ^ step * den ≤ num := by
  have hcross := (Nat.mul_le_mul_right _ h).trans (Nat.div_mul_le_self num _)
  rwa [Nat.shiftLeft_eq, Nat.mul_comm den, ← Nat.mul_assoc] at hcross

theorem units_kept (negative : Bool) {step r : Nat} (hcode : step * binade + r < signBit)
    (hlow : 0 < step → binade ≤ r) (hhigh : r ≤ binade + binade) :
    (ofCode negative (step * binade + r)).units = r * 2 ^ step := by
  have hbinade : 0 < binade := by decide
  rw [units, code_ofCode negative hcode]
  simp only [Nat.shiftLeft_eq]
  by_cases hless : r < binade
  · obtain rfl : step = 0 := by omega
    simp [Nat.div_eq_of_lt hless, Nat.mod_eq_of_lt hless]
  · obtain ⟨f, rfl⟩ := Nat.exists_eq_add_of_le (Nat.le_of_not_lt hless)
    rw [← Nat.add_assoc, ← Nat.succ_mul]
    by_cases hfull : f = binade
    · subst hfull
      rw [← Nat.succ_mul, Nat.mul_div_left _ hbinade, Nat.mul_mod_left, if_neg (by omega),
        Nat.add_zero, Nat.succ_sub_one, Nat.pow_succ']
      ring
    · have hfraction : f < binade := by omega
      rw [Nat.mul_comm, Nat.mul_add_div hbinade, Nat.mul_add_mod, Nat.div_eq_of_lt hfraction,
        Nat.mod_eq_of_lt hfraction, if_neg (by omega)]
      rfl

-- In a lower binade everything is less, and from there on up all are multiples of one step.
theorem units_lt_or_dvd (x : Double) (step : Nat) :
    0 < step ∧ x.units < binade * 2 ^ step ∨ ∃ m, x.units = m * 2 ^ step := by
  have hfraction : x.code % binade < binade := Nat.mod_lt _ (by decide)
  simp only [units, Nat.shiftLeft_eq]
  generalize x.code / binade = e
  generalize x.code % binade = f at *
  by_cases hstep : step = 0
  · subst hstep
    exact .inr ⟨_, (Nat.mul_one _).symm⟩
  by_cases hzero : e = 0
  · have hpow : 0 < 2 ^ step := Nat.two_pow_pos step
    rw [if_pos hzero]
    exact .inl ⟨Nat.pos_of_ne_zero hstep, hfraction.trans_le (Nat.le_mul_of_pos_right _ hpow)⟩
  rw [if_neg hzero]
  by_cases hlow : e ≤ step
  · have hpow : 2 ^ step = 2 ^ (e - 1) * 2 ^ (step - e + 1) := by
      rw [← Nat.pow_add]
      congr 1
      omega
    have htwo : 2 ≤ 2 ^ (step - e + 1) := by
      rw [Nat.pow_succ']
      exact Nat.le_mul_of_pos_right 2 (Nat.two_pow_pos _)
    have hsum : binade + f < binade * 2 ^ (step - e + 1) :=
      Nat.lt_of_lt_of_le (by omega) (Nat.mul_le_mul_left binade htwo)
    refine .inl ⟨Nat.pos_of_ne_zero hstep, ?_⟩
    rw [hpow, Nat.mul_left_comm, Nat.mul_comm (2 ^ (e - 1))]
    exact Nat.mul_lt_mul_of_pos_right hsum (Nat.two_pow_pos _)
  · refine .inr ⟨(binade + f) * 2 ^ (e - 1 - step), ?_⟩
    rw [Nat.mul_assoc, ← Nat.pow_add, Nat.sub_add_cancel (by omega)]

-- The exponent is a variable so that the power is never worked out.
theorem units_infinite {step : Nat} (hstep : step = 2046) :
    (ofCode false infiniteCode).units = binade * 2 ^ step := by
  have hcode : infiniteCode = step * binade + binade := by
    rw [hstep]
    decide
  have hless : step * binade + binade < signBit := by
    rw [← hcode]
    decide
  rw [hcode]
  exact units_kept false hless (fun _ => Nat.le_refl binade) (Nat.le_add_left binade binade)

-- Above all finite numbers the next power of two is nearest, and that is where infinity is.
theorem gap_infinite_lt {num den step : Nat} (hden : 0 < den) (hstep : 2046 ≤ step)
    (h : binade * 2 ^ step * den ≤ num) {x : Double} (hx : x.code ≤ infiniteCode) :
    gap num den (ofCode false infiniteCode).units < gap num den x.units ∨
      x.units = (ofCode false infiniteCode).units := by
  have hle : x.units ≤ (ofCode false infiniteCode).units := by
    apply units_mono
    rwa [code_ofCode false (by decide)]
  by_cases hsame : x.units = (ofCode false infiniteCode).units
  · exact .inr hsame
  · left
    apply gap_lt_of_lt hden (Nat.lt_of_le_of_ne hle hsame)
    obtain ⟨top, htop⟩ : ∃ top, top = 2046 := ⟨_, rfl⟩
    have hle : top ≤ step := by omega
    have hpow := Nat.mul_le_mul_left binade (Nat.pow_le_pow_right Nat.two_pos hle)
    rw [units_infinite htop]
    exact (Nat.mul_le_mul_right den hpow).trans h

-- Of all magnitudes that of `x` is nearest to a quotient, and if another is as near then `x` has the
-- even code. Infinity stands for the power of two behind the last finite number.
def IsNearest (num den : Nat) (x : Double) : Prop :=
  ∀ y : Double, y.isNaN = false →
    gap (num * one) den x.units < gap (num * one) den y.units ∨
      gap (num * one) den x.units = gap (num * one) den y.units ∧
        (y.units = x.units ∨ x.code % 2 = 0)

theorem isNearest_ofCode (negative : Bool) {num den : Nat} (hden : 0 < den) :
    IsNearest num den (ofCode negative (nearestCode num den)) := by
  intro x hx
  rw [isNaN, decide_eq_false_iff_not, Nat.not_lt] at hx
  have hlow := @binade_le_div (num * one) den
  have hleast := @le_roundQuotient (num * one) den
  have hhigh := roundQuotient_le (num * one) den
  have hless := nearestCode_lt_signBit num den
  have hround (step m : Nat) := @gap_roundQuotient_le (num * one) (den <<< step)
    (by rw [Nat.shiftLeft_eq]; exact Nat.mul_pos hden (Nat.two_pow_pos step)) m
  rw [units_ofCode, code_ofCode negative hless, nearestUnits]
  simp only [nearestCode] at hless ⊢
  generalize Nat.log2 (num * one / den) - 52 = step at *
  by_cases hcapped : infiniteCode < step * binade + roundQuotient (num * one) (den <<< step)
  · have hstep : 2046 ≤ step := by
      simp only [infiniteCode, binade] at hcapped hhigh
      omega
    rw [min_eq_left (Nat.le_of_lt hcapped)]
    obtain hfar | hsame := gap_infinite_lt hden hstep
      (mul_le_of_le_div_shift (hlow (by omega))) hx
    · exact .inl hfar
    · exact .inr ⟨by rw [hsame], .inl hsame⟩
  rw [min_eq_right (Nat.le_of_not_lt hcapped)] at hless ⊢
  rw [units_kept false hless hleast hhigh]
  have hparity : (step * binade + roundQuotient (num * one) (den <<< step)) % 2 =
      roundQuotient (num * one) (den <<< step) % 2 := by
    simp only [binade]
    omega
  rw [hparity, gap_shift]
  obtain ⟨hstep, hbelow⟩ | ⟨m, hm⟩ := units_lt_or_dvd x step
  · left
    have hbottom := hround step binade
    rw [← gap_shift _ _ binade] at hbottom
    have hunder := mul_le_of_le_div_shift (hlow hstep)
    exact lt_of_le_of_lt (by omega) (gap_lt_of_lt hden hbelow hunder)
  · have hbetter := hround step m
    rw [hm, gap_shift, Nat.mul_left_inj (Nat.two_pow_pos step).ne']
    exact hbetter

-- The whole part of what a quotient is rounded to.
def nearestWhole (num den : Nat) : Nat := nearestUnits num den / one

section

variable {num den k : Nat} (hden : 0 < den)
include hden

theorem nearestWhole_mono {num' den' : Nat} (hden' : 0 < den') (h : num * den' ≤ num' * den) :
    nearestWhole num den ≤ nearestWhole num' den' :=
  Nat.div_le_div_right (nearestUnits_mono hden hden' h)

-- Rounding goes past no whole number of 53 bits.

theorem le_nearestWhole (hk : k < 2 ^ 53) (h : k * den ≤ num) : k ≤ nearestWhole num den := by
  rw [nearestWhole, Nat.le_div_iff_mul_le one_pos, ← nearestUnits_whole hk]
  exact nearestUnits_mono Nat.one_pos hden (by rwa [Nat.mul_one])

theorem nearestWhole_le (hk : k < 2 ^ 53) (h : num ≤ k * den) : nearestWhole num den ≤ k := by
  have hunits : nearestUnits num den ≤ k * one := by
    rw [← nearestUnits_whole hk]
    exact nearestUnits_mono hden Nat.one_pos (by rwa [Nat.mul_one])
  rw [nearestWhole, ← Nat.mul_div_left k one_pos]
  exact Nat.div_le_div_right hunits

-- Up to two to the 31 a number that ends 22 bits below a whole one is still told from it.
theorem nearestWhole_lt (hpos : 0 < k) (hk : k ≤ 2 ^ 31) (h : num * 2 ^ 22 ≤ (k * 2 ^ 22 - 1) * den) :
    nearestWhole num den < k := by
  have hlt : k * 2 ^ 22 - 1 < 2 ^ 53 := by omega
  have hunits := Nat.mul_le_mul_right (2 ^ 22) (nearestUnits_mono hden (Nat.two_pow_pos 22) h)
  have hbelow := units_dyadic false hlt (by omega : 22 ≤ 1022)
  rw [units_ofCode] at hbelow
  rw [hbelow] at hunits
  rw [nearestWhole, Nat.div_lt_iff_lt_mul one_pos]
  have hone := one_pos
  have hless : (k * 2 ^ 22 - 1) * one < k * one * 2 ^ 22 := by
    rw [Nat.mul_right_comm]
    exact Nat.mul_lt_mul_of_pos_right (by omega) hone
  exact Nat.lt_of_mul_lt_mul_right (hunits.trans_lt hless)

end

end WindowDoc.Double
