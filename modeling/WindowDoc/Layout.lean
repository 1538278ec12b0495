import WindowDoc.Numeral

namespace WindowDoc

-- The spaces between the cells of a grid.
structure Gaps where
  horizontal : Int32
  vertical : Int32
deriving DecidableEq

-- How a window or a panel arranges what it holds: side by side, line after line, or in the
-- cells of a grid.
inductive Layout where
  | flow
  | grid (rows columns : Int32) (gaps : Option Gaps)
deriving DecidableEq

-- The gaps with the names of their parts, as the log shows them.
def Gaps.describe (gaps : Gaps) : String :=
  "Gaps \x7b h: " ++ Numeral.signed gaps.horizontal ++ ", v: " ++ Numeral.signed gaps.vertical
    ++ " \x7d"

namespace Layout

def describe : Layout → String
  | flow => "Flow"
  | grid rows columns gaps =>
      let spacing := match gaps with
        | none => "None"
        | some gaps => "Some(" ++ gaps.describe ++ ")"
      "Grid \x7b rows: " ++ Numeral.signed rows ++ ", cols: " ++ Numeral.signed columns
        ++ ", gaps: " ++ spacing ++ " \x7d"

end Layout

end WindowDoc
