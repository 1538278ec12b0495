import WindowDoc.Text.Ranges

namespace WindowDoc.Text

-- The code points with the property White_Space, as inclusive ranges in ascending order.
def blankRanges : List (Nat × Nat) :=
  [(0x9, 0xd), (0x20, 0x20), (0x85, 0x85), (0xa0, 0xa0), (0x1680, 0x1680), (0x2000, 0x200a),
   (0x2028, 0x2029), (0x202f, 0x202f), (0x205f, 0x205f), (0x3000, 0x3000)]

theorem blankRanges_ascending : ascending 0 blankRanges = true := by
  decide +kernel

-- A character that separates lexemes and means nothing else.
def isBlank (c : Char) : Bool :=
  covers blankRanges c.toNat

end WindowDoc.Text
