import WindowDoc.Double.Basic
import WindowDoc.Numeral

namespace WindowDoc

-- A number written in base ten: a sign, the digits read as one number, and how many of them
-- stand after the point.
structure Decimal where
  negative : Bool
  digits : Nat
  places : Nat
deriving DecidableEq

namespace Double

-- A quotient rounded to the nearest whole number, a half going to the even neighbour.
def roundQuotient (num den : Nat) : Nat :=
  let below := num / den
  let twice := 2 * (num % den)
  if twice < den then below
  else if den < twice then below + 1
  else below + below % 2

-- The code of the magnitude nearest to `num / den`. Counted in units the quotient keeps its
-- leading 53 bits, so `step` is how many bits are dropped. The code of the rounded number is
-- that many binades of codes below it plus the bits that are left, and this also holds when
-- rounding carries into the next binade. Past the last finite code there is only infinity.
def nearestCode (num den : Nat) : Nat :=
  let scaled := num * one
  let step := Nat.log2 (scaled / den) - 52
  min infiniteCode (step * binade + roundQuotient scaled (den <<< step))

end Double

-- The nearest binary64 number, ties going to the even code. Zero keeps its sign.
def Decimal.toDouble (d : Decimal) : Double :=
  .ofCode d.negative (Double.nearestCode d.digits (Nat.pow 10 d.places))

end WindowDoc
