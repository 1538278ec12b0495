import WindowDoc.Double.Rounding

namespace WindowDoc.Double

-- A decimal grid point: `digits` times ten to the power `place`.
structure GridPoint where
  digits : Nat
  place : Int
deriving DecidableEq

namespace GridPoint

-- The point as a quotient of whole numbers.
def num (p : GridPoint) : Nat := p.digits * Nat.pow 10 p.place.toNat
def den (p : GridPoint) : Nat := Nat.pow 10 (-p.place).toNat

-- Whether reading the point gives the number with this code.
def reads (p : GridPoint) (code : Nat) : Bool :=
  nearestCode p.num p.den == code

end GridPoint

-- The power of ten of the leading digit of a positive magnitude. Scaling by ten to the 400
-- makes even the least magnitude a large whole number, whose digits can be counted.
def leadingPlace (units : Nat) : Int :=
  (Numeral.digits 10 (units * Nat.pow 10 400 / one)).length - 401

-- The point of the grid with `count` digits that reads back as the number: its neighbour
-- below or above, the nearer of the two if both do, and the upper one at equal distance.
def onGrid (x : Double) (count : Nat) : Option GridPoint :=
  let place := leadingPlace x.units - (count - 1)
  let num := x.units * Nat.pow 10 (-place).toNat
  let den := one * Nat.pow 10 place.toNat
  let below : GridPoint := ⟨num / den, place⟩
  let above : GridPoint := ⟨num / den + 1, place⟩
  match below.reads x.code, above.reads x.code with
  | true, true => some (if 2 * (num % den) < den then below else above)
  | true, false => some below
  | false, true => some above
  | false, false => none

-- The fewest digits that read back as the number. Seventeen always do.
def shortest (x : Double) : GridPoint :=
  ((List.range' 1 17).findSome? x.onGrid).getD ⟨0, 0⟩

-- The digits of a grid point without trailing zeros, and where the point stands among them:
-- the value is `0.d₁d₂…` times ten to the power of the second part.
def GridPoint.normal (p : GridPoint) : List Char × Int :=
  let ds := Numeral.digits 10 p.digits
  ((ds.reverse.dropWhile (· == '0')).reverse, ds.length + p.place)

-- Digits are written out with at least one decimal from 0.0001 to below ten to the 16, and
-- as one digit, the rest and an exponent outside of that.
def written (ds : List Char) (point : Int) : List Char :=
  if -4 < point ∧ point ≤ 16 then
    if point ≤ 0 then ['0', '.'] ++ List.replicate (-point).toNat '0' ++ ds
    else
      let whole := ds.take point.toNat ++ List.replicate (point.toNat - ds.length) '0'
      let fraction := ds.drop point.toNat
      whole ++ ['.'] ++ (if fraction.isEmpty then ['0'] else fraction)
  else
    ds.take 1 ++ (if (ds.drop 1).isEmpty then [] else '.' :: ds.drop 1) ++ ['e']
      ++ Numeral.ofInt (point - 1)

def text (x : Double) : String :=
  if x.isNaN then "NaN"
  else
    let magnitude :=
      if x.code = infiniteCode then ['i', 'n', 'f']
      else if x.code = 0 then ['0', '.', '0']
      else let (ds, point) := x.shortest.normal; written ds point
    String.ofList (if x.negative then '-' :: magnitude else magnitude)

end WindowDoc.Double
