/-!
# Terminal styles

A style is a set of attributes and possibly a colour. Painting puts the control sequence of the style
before a text and the resetting one after it; the plain style leaves the text alone.
-/

set_option autoImplicit false

namespace PipeAssist

/-- The colours in use. -/
inductive Color where
  | red
  | green
  | yellow
  | magenta
  | cyan
  | darkGray
deriving DecidableEq, Repr

/-- The code of a foreground colour. -/
def Color.code : Color → String
  | .red => "31"
  | .green => "32"
  | .yellow => "33"
  | .magenta => "35"
  | .cyan => "36"
  | .darkGray => "90"

/-- Attributes and colour of a text. -/
structure Style where
  color : Option Color := none
  bold : Bool := false
  dimmed : Bool := false
  italic : Bool := false
deriving DecidableEq, Repr

namespace Style

/-- The style that changes nothing. -/
def plain : Style := {}

/-- A colour and nothing else. -/
def colored (color : Color) : Style := { color := some color }

/-- A colour in bold. -/
def boldColored (color : Color) : Style := { color := some color, bold := true }

/-- The escape character. -/
def escape : String := "\x1b"

/-- The codes of a style: bold, dimmed and italic, then the colour. -/
def codes (style : Style) : List String :=
  (if style.bold then ["1"] else []) ++ (if style.dimmed then ["2"] else []) ++
    (if style.italic then ["3"] else []) ++ (style.color.map (·.code)).toList

/-- The text in a style. -/
def paint (style : Style) (text : String) : String :=
  if style = plain then text
  else
    escape ++ "[" ++ String.intercalate ";" style.codes ++ "m" ++ text ++ escape ++ "[0m"

end Style

end PipeAssist
