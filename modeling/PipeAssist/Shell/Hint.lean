import PipeAssist.Completion.Engine
import PipeAssist.Report.Paint

/-!
# Hints

While a line is typed, a hint shows how it could go on: as the first proposal that extends it, or
else as the newest line of the history that does. The history belongs to the line editor
(`LineHistory`); `History` is one that keeps its lines in memory.
-/

set_option autoImplicit false

namespace PipeAssist.Shell

/-- A history of the line editor: lines are saved to it, and it is searched for the newest line that
starts with a text. -/
class LineHistory (σ : Type) where
  save : σ → Text → σ
  newestWith? : σ → Text → Option Text

/-- Lines entered before, newest first, and how many are kept. -/
structure History where
  capacity : Nat
  lines : List Text := []
deriving DecidableEq, Repr

namespace History

/-- Saves a line, unless it is empty or the newest one already. The oldest line goes when there are
too many. -/
def save (history : History) (line : Text) : History :=
  if line = [] || history.lines.head? = some line then history
  else { history with lines := (line :: history.lines).take history.capacity }

/-- The newest line that starts with a text. -/
def newestWith? (history : History) (start : Text) : Option Text :=
  history.lines.find? fun line => Text.startsWith line start

end History

instance : LineHistory History := ⟨History.save, History.newestWith?⟩

/-- What a longer text has after the line it starts with. -/
def extension? (line longer : Text) : Option Text :=
  if Text.startsWith longer line && line.length < longer.length then
    some (longer.drop line.length)
  else none

/-- How the proposals of an engine would go on with a line. -/
def proposedHint? (engine : Engine) (line : Text) : Option Text :=
  (engine.complete line 0).findSome? fun proposal => extension? line proposal.text

section Search

variable {σ : Type} [LineHistory σ]

/-- How the history would go on with a line. -/
def rememberedHint? (history : σ) (line : Text) : Option Text :=
  (LineHistory.newestWith? history line).bind (extension? line)

/-- The hint for a line with the cursor at a byte: none unless the cursor is at the end and the line
is not blank. -/
def hintFor (engine : Engine) (history : σ) (line : Text) (cursor : Nat) : Text :=
  if cursor ≠ Text.byteSize line || Text.isAllBlank line then []
  else ((proposedHint? engine line).or (rememberedHint? history line)).getD []

end Search

/-- The hint that is on display. -/
structure Hinter where
  hint : Text := []
deriving DecidableEq, Repr

namespace Hinter

/-- Looks for the hint of another line; the one on display is forgotten. -/
def handle {σ : Type} [LineHistory σ] (_hinter : Hinter) (engine : Engine) (history : σ)
    (line : Text) (cursor : Nat) : Hinter :=
  ⟨hintFor engine history line cursor⟩

/-- The style of hints. -/
def style : Style := { color := some .darkGray, italic := true }

/-- The hint as it is shown. -/
def shown (hinter : Hinter) (colors : Bool) : String :=
  if colors && hinter.hint ≠ [] then style.paint (Text.str hinter.hint) else Text.str hinter.hint

/-- The first word of the hint with the blanks before it. -/
def nextWord (hinter : Hinter) : Text :=
  let blanks := hinter.hint.takeWhile Text.isBlank
  blanks ++ (hinter.hint.drop blanks.length).takeWhile fun c => !Text.isBlank c

end Hinter

end PipeAssist.Shell
