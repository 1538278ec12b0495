namespace WindowDoc

-- A binary64 number, known by its bits: the sign, then a code that grows with the magnitude.
structure Double where
  bits : UInt64
deriving DecidableEq

namespace Double

def signBit : Nat := 0x8000000000000000

-- The magnitudes of the finite numbers have the codes below this one, in order.
def infiniteCode : Nat := 0x7ff0000000000000

-- How many codes a binade has: the fraction below the leading bit has 52 bits.
def binade : Nat := 0x10000000000000

def ofCode (negative : Bool) (code : Nat) : Double :=
  ⟨UInt64.ofNat (if negative then signBit + code else code)⟩

def negative (x : Double) : Bool :=
  decide (signBit ≤ x.bits.toNat)

def code (x : Double) : Nat :=
  x.bits.toNat % signBit

def isNaN (x : Double) : Bool :=
  decide (infiniteCode < x.code)

-- One, counted in the least positive number, which is the unit of every magnitude.
def one : Nat := 1 <<< 1074

-- The magnitude counted in units: 52 bits of fraction, and above the lowest exponent a
-- leading bit before them that the code leaves out.
def units (x : Double) : Nat :=
  let exponent := x.code / binade
  let fraction := x.code % binade
  if exponent = 0 then fraction else (binade + fraction) <<< (exponent - 1)

-- The whole number next to `x` on the way to zero, or the end of the 32-bit range that it
-- lies beyond. What is not a number counts as zero.
def truncate (x : Double) : Int :=
  if x.isNaN then 0
  else
    let whole : Int := x.units / one
    if x.negative then max (-2147483648) (-whole) else min 2147483647 whole

def toInt32 (x : Double) : Int32 :=
  Int32.ofInt x.truncate

theorem truncate_mem_range (x : Double) :
    -2147483648 ≤ x.truncate ∧ x.truncate ≤ 2147483647 := by
  unfold truncate
  have h : (0 : Int) ≤ x.units / one := Int.ediv_nonneg (Int.natCast_nonneg _) (Int.natCast_nonneg _)
  split
  · omega
  · split <;> simp only [] <;> omega

end Double

end WindowDoc
