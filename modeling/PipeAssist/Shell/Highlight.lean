import PipeAssist.Token.Scan
import PipeAssist.Report.Paint

/-!
# Highlighting

A line is shown in parts: blanks as they are, and every lexeme in the style of its role. The role of
an identifier follows from the lexemes before it.
-/

set_option autoImplicit false

namespace PipeAssist.Shell

/-- Which role the next identifier would have. -/
inductive Place where
  | component
  | optionName
  | optionValue
  /-- Behind an identifier of a value: a dot continues the value. -/
  | afterValue
  /-- Where no identifier is expected. -/
  | afterComponent
deriving DecidableEq, Repr

/-- A piece of a line in a style. -/
structure StyledPart where
  style : Style
  text : Text
deriving DecidableEq, Repr

/-- The style of an identifier. -/
def Place.style : Place → Style
  | .component => .boldColored .cyan
  | .optionName => .colored .yellow
  | .optionValue => .colored .green
  | .afterValue => .colored .red
  | .afterComponent => .colored .red

/-- The style of a lexeme of a kind at a place. -/
def styleOf (place : Place) : Token.Kind → Style
  | .pipe => .boldColored .magenta
  | .optionMarker => .colored .yellow
  | .dot => .colored .yellow
  | .equals => .colored .darkGray
  | .stringLiteral => .colored .green
  | .unknown => .boldColored .red
  | .identifier => place.style
  | .endOfInput => .plain

/-- The place behind a lexeme of a kind. -/
def Place.after (place : Place) : Token.Kind → Place
  | .pipe => .component
  | .optionMarker => .optionName
  | .equals => .optionValue
  | .dot =>
    match place with
    | .optionName => .optionName
    | .afterValue => .optionValue
    | _ => .afterComponent
  | .identifier =>
    match place with
    | .optionName => .optionName
    | .optionValue => .afterValue
    | _ => .afterComponent
  | _ => .afterComponent

/-- The parts of consecutive pieces of which the first one stands at a place. -/
def stylePieces (place : Place) : List Piece → List StyledPart
  | [] => []
  | .blank run :: rest => ⟨.plain, run⟩ :: stylePieces place rest
  | .lexeme item :: rest =>
    ⟨styleOf place item.kind, item.raw⟩ :: stylePieces (place.after item.kind) rest

/-- The parts of a line; without highlighting the line is one plain part. -/
def highlight (enabled : Bool) (line : Text) : List StyledPart :=
  if enabled then stylePieces .component (Piece.split line) else [⟨.plain, line⟩]

/-- The parts as they are written to a terminal. -/
def renderParts (parts : List StyledPart) : String :=
  String.join (parts.map fun part => part.style.paint (Text.str part.text))

end PipeAssist.Shell
