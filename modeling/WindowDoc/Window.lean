import WindowDoc.Layout

namespace WindowDoc

inductive Widget where
  | button (label : String)
  | label (text : String)
  -- a single line of text, so many columns wide
  | textField (columns : Int32)
  | panel (layout : Layout) (children : List Widget)
  -- buttons of which one at most is chosen
  | radioGroup (labels : List String)

structure Window where
  title : String
  width : Int32
  height : Int32
  layout : Layout
  children : List Widget

namespace Widget

mutual

def decEq : (a b : Widget) → Decidable (a = b)
  | button a, button b => decidable_of_iff (a = b) (by simp)
  | label a, label b => decidable_of_iff (a = b) (by simp)
  | textField a, textField b => decidable_of_iff (a = b) (by simp)
  | panel l as, panel m bs =>
      have := decEqList as bs
      decidable_of_iff (l = m ∧ as = bs) (by simp)
  | radioGroup as, radioGroup bs => decidable_of_iff (as = bs) (by simp)
  | button _, label _ | button _, textField _ | button _, panel .. | button _, radioGroup _
  | label _, button _ | label _, textField _ | label _, panel .. | label _, radioGroup _
  | textField _, button _ | textField _, label _ | textField _, panel ..
  | textField _, radioGroup _
  | panel .., button _ | panel .., label _ | panel .., textField _ | panel .., radioGroup _
  | radioGroup _, button _ | radioGroup _, label _ | radioGroup _, textField _
  | radioGroup _, panel .. => isFalse (by simp)

def decEqList : (as bs : List Widget) → Decidable (as = bs)
  | [], [] => isTrue rfl
  | a :: as, b :: bs =>
      have := decEq a b
      have := decEqList as bs
      decidable_of_iff (a = b ∧ as = bs) (by simp)
  | [], _ :: _ | _ :: _, [] => isFalse (by simp)

end

instance : DecidableEq Widget := decEq

end Widget

deriving instance DecidableEq for Window

namespace Widget

mutual

-- The widget itself and then, if it is a panel, all that is inside it.
def flatten : Widget → List Widget
  | panel layout children => panel layout children :: flattenAll children
  | widget => [widget]

def flattenAll : List Widget → List Widget
  | [] => []
  | widget :: rest => widget.flatten ++ flattenAll rest

end

end Widget

-- Every widget of the window in the order of its source, a panel before its content.
def Window.widgets (window : Window) : List Widget :=
  Widget.flattenAll window.children

end WindowDoc
