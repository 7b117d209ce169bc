/-!
# Ranges of code points

Classes of characters beyond the basic Latin block are given as lists of closed ranges of code
points in increasing order.
-/

set_option autoImplicit false

namespace PipeAssist.Text

/-- Closed ranges of code points, by their first and last ones. -/
abbrev CodeRanges := List (Nat × Nat)

/-- Whether some range holds a code point. -/
def CodeRanges.holds (ranges : CodeRanges) (code : Nat) : Bool :=
  ranges.any fun range => range.1 ≤ code && code ≤ range.2

end PipeAssist.Text
