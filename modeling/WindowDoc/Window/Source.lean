import WindowDoc.Window

namespace WindowDoc

-- The canonical text of a window: one line for each widget, four spaces for each level of
-- nesting, small letters throughout. Texts are written as they are.

def Layout.source : Layout → String
  | flow => "layout flow:"
  | grid rows columns none => "layout grid(" ++ Numeral.signed rows ++ ", " ++ Numeral.signed columns ++ "):"
  | grid rows columns (some gaps) =>
      "layout grid(" ++ Numeral.signed rows ++ ", " ++ Numeral.signed columns ++ ", "
        ++ Numeral.signed gaps.horizontal ++ ", " ++ Numeral.signed gaps.vertical ++ "):"

def indent : Nat → String
  | 0 => ""
  | depth + 1 => "    " ++ indent depth

def radioSource (depth : Nat) (label : String) : String :=
  indent depth ++ "radio \"" ++ label ++ "\";\n"

mutual

def Widget.source (depth : Nat) : Widget → String
  | .button caption => indent depth ++ "button \"" ++ caption ++ "\";\n"
  | .label text => indent depth ++ "label \"" ++ text ++ "\";\n"
  | .textField columns => indent depth ++ "textfield " ++ Numeral.signed columns ++ ";\n"
  | .panel layout children =>
      indent depth ++ "panel " ++ layout.source ++ "\n" ++ Widget.sourceAll (depth + 1) children
        ++ indent depth ++ "end;\n"
  | .radioGroup labels =>
      indent depth ++ "group\n" ++ String.join (labels.map (radioSource (depth + 1)))
        ++ indent depth ++ "end;\n"

def Widget.sourceAll (depth : Nat) : List Widget → String
  | [] => ""
  | widget :: rest => widget.source depth ++ Widget.sourceAll depth rest

end

def Window.source (window : Window) : String :=
  "window \"" ++ window.title ++ "\" (" ++ Numeral.signed window.width ++ ", " ++ Numeral.signed window.height
    ++ ")\n" ++ indent 1 ++ window.layout.source ++ "\n" ++ Widget.sourceAll 1 window.children
    ++ "end."

end WindowDoc
