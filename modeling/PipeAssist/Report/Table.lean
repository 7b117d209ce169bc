import PipeAssist.Text.Width

/-!
# Tables

A table has a header row and rows of cells, drawn in a frame with round corners and a line under the
header. Every cell has a space on both sides; its lines start at the left, those of the header are
moved to the middle together. A cell that is wider than the limit is re-flowed character by
character.
-/

set_option autoImplicit false

namespace PipeAssist.Report

/-- A header, rows of as many cells, the greatest width of a column, and whether the header is
coloured. -/
structure Table where
  header : List Text
  rows : List (List Text)
  limit : Nat
  colors : Bool

namespace Table

/-- Re-flows characters into lines of at most `limit` columns when `used` columns of the current
line are taken. Every character takes at least one column; one that does not fit moves to the next
line, and one that fits on no line is replaced by as many replacement characters as fill the line. -/
def reflow (limit used : Nat) : Text → Text
  | [] => []
  | c :: rest =>
    if c = '\n' then '\n' :: reflow limit 0 rest
    else
      let full := used = limit
      let used := if full then 0 else used
      let width := max 1 (Text.charWidth c)
      let lead : Text := if full then ['\n'] else []
      if used + width ≤ limit then lead ++ c :: reflow limit (used + width) rest
      else if width ≤ limit then lead ++ '\n' :: c :: reflow limit width rest
      else
        lead ++ List.replicate (limit - used) (Char.ofNat 0xFFFD) ++ reflow limit limit rest

/-- A cell within the limit. A carriage return at the end of a line does not count. -/
def fit (limit : Nat) (cell : Text) : Text :=
  if Text.blockWidth (Text.dropReturns cell) ≤ limit then cell
  else if limit = 0 then []
  else reflow limit 0 cell

/-- As many spaces. -/
def gap (n : Nat) : Text := List.replicate n ' '

/-- A line of a cell at the left of a column of a width. -/
def padRight (width : Nat) (line : Text) : Text := line ++ gap (width - Text.lineWidth line)

/-- The characters around a coloured line of the header. -/
def emphasize (line : Text) : Text :=
  "\x1b[36m\x1b[1m".toList ++ line ++ "\x1b[39m\x1b[22m".toList

/-- The lines of a body cell in a column of a width. -/
def bodyLines (width : Nat) (cell : Text) : List Text := (Text.lines cell).map (padRight width)

/-- The lines of a header cell in a column of a width. -/
def headerLines (colors : Bool) (width : Nat) (cell : Text) : List Text :=
  let left := (width - Text.blockWidth cell) / 2
  (Text.lines cell).map fun line =>
    gap left ++ (if colors then emphasize line else line) ++
      gap (width - left - Text.lineWidth line)

/-- A horizontal line of the frame. -/
def rule (left middle right : Char) (widths : List Nat) : Text :=
  left :: (List.intercalate [middle] (widths.map fun width => List.replicate (width + 2) '─') ++
    [right])

/-- The lines of a row whose cells were laid out line by line. Cells with fewer lines are filled up
below. -/
def rowLines (widths : List Nat) (cells : List (List Text)) : List Text :=
  let height := (cells.map List.length).foldl max 0
  (List.range height).map fun i =>
    '│' :: (cells.zip widths).flatMap fun entry =>
      ' ' :: (entry.1.getD i (gap entry.2) ++ [' ', '│'])

/-- The width of every column: that of its widest cell. -/
def columnWidths : List (List Text) → List Nat
  | [] => []
  | row :: rows =>
    rows.foldl (fun widths cells => List.zipWith (fun w cell => max w (Text.blockWidth cell)) widths cells)
      (row.map Text.blockWidth)

/-- The table in its frame, without a line feed at the end. -/
def render (table : Table) : Text :=
  let header := table.header.map (fit table.limit)
  let rows := table.rows.map fun row => row.map (fit table.limit)
  let widths := columnWidths (header :: rows)
  let layOut (layout : Nat → Text → List Text) (cells : List Text) : List Text :=
    rowLines widths ((widths.zip cells).map fun entry => layout entry.1 entry.2)
  let lines :=
    rule '╭' '┬' '╮' widths :: (layOut (headerLines table.colors) header ++
      rule '├' '┼' '┤' widths :: (rows.flatMap (layOut bodyLines) ++ [rule '╰' '┴' '╯' widths]))
  List.intercalate ['\n'] lines

end Table

end PipeAssist.Report
