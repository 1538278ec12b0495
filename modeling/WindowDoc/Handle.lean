import WindowDoc.Numeral

namespace WindowDoc

-- A container, which is a window or a panel, by the order in which it was made.
structure ContainerId where
  index : Nat
deriving DecidableEq

-- A group of radio buttons by the order in which it was begun.
structure GroupId where
  index : Nat
deriving DecidableEq

def ContainerId.text (id : ContainerId) : String := "NodeId(" ++ Numeral.text id.index ++ ")"

def GroupId.text (id : GroupId) : String := "GroupId(" ++ Numeral.text id.index ++ ")"

end WindowDoc
