import PipeAssist.Text.Cluster

/-!
# Display widths

The number of columns a text takes on a terminal. East Asian wide characters take two, combining and
ignorable characters none, and a line takes what its characters take together. In a line every
control character takes one, and a carriage return with the line feed after it one together.
-/

set_option autoImplicit false

namespace PipeAssist.Text

/-- The control characters. -/
def isControl (c : Char) : Bool := c.toNat < 0x20 || (0x7F ≤ c.toNat && c.toNat < 0xA0)

/-- The columns of a character on its own; control characters take none. -/
def charWidth (c : Char) : Nat := if isControl c then 0 else WidthTable.codeWidth c.toNat

/-- The columns of a line. -/
def lineWidth (line : Text) : Nat := (survey line).1.toNat

/-- The parts of a text between its line feeds. -/
def lines : Text → List Text
  | [] => [[]]
  | c :: cs =>
    if c = '\n' then [] :: lines cs
    else
      match lines cs with
      | [] => [[c]]
      | first :: rest => (c :: first) :: rest

/-- The text without the carriage return before each line feed. -/
def dropReturns : Text → Text
  | [] => []
  | '\r' :: '\n' :: rest => '\n' :: dropReturns rest
  | c :: rest => c :: dropReturns rest

/-- The columns of the widest line of a text. -/
def blockWidth (text : Text) : Nat := ((lines text).map lineWidth).foldl max 0

end PipeAssist.Text
