import PipeAssist.Token.Basic

/-!
# Scanning

A text falls into pieces: runs of blanks, and lexemes. `Piece.first` cuts the first piece off a
non-empty text; `Piece.split` cuts all of it by going through the text once and passing over the
characters of the piece that was cut last. `Token.scan` drops the blanks, places every lexeme at its
bytes and ends with the end of input. Nothing is rejected: a character without a use becomes a
lexeme of kind `unknown`.
-/

set_option autoImplicit false

namespace PipeAssist

/-- A run of blanks, or a lexeme. -/
inductive Piece where
  | blank (run : Text)
  | lexeme (item : Lexeme)
deriving DecidableEq, Repr

namespace Piece

/-- The characters of a piece. -/
def raw : Piece → Text
  | .blank run => run
  | .lexeme item => item.raw

/-- The lexeme that starts with the non-blank character `c` when `rest` follows it. -/
def firstLexeme (c : Char) (rest : Text) : Lexeme :=
  if c = '|' then ⟨.pipe, [c], []⟩
  else if c = '.' then ⟨.dot, [c], []⟩
  else if c = '=' then ⟨.equals, [c], []⟩
  else if c = '-' && rest.head? = some '-' then ⟨.optionMarker, [c, '-'], []⟩
  else if Literal.isQuote c then
    let literal := Literal.read c rest
    ⟨.stringLiteral, c :: literal.raw, literal.value⟩
  else if Text.isWordStart c then
    let word := c :: rest.takeWhile Text.isWordPart
    ⟨.identifier, word, word⟩
  else ⟨.unknown, [c], []⟩

/-- The piece that starts with `c` when `rest` follows it. -/
def first (c : Char) (rest : Text) : Piece :=
  if Text.isBlank c then .blank (c :: rest.takeWhile Text.isBlank)
  else .lexeme (firstLexeme c rest)

/-- The pieces of a text whose first `skip` characters belong to an earlier piece. -/
def splitAfter : Nat → Text → List Piece
  | _, [] => []
  | skip + 1, _ :: rest => splitAfter skip rest
  | 0, c :: rest =>
    let piece := first c rest
    piece :: splitAfter (piece.raw.length - 1) rest

/-- The pieces of a text, in order. -/
def split (text : Text) : List Piece := splitAfter 0 text

end Piece

namespace Token

/-- The tokens of consecutive pieces of which the first one starts at byte `offset`, followed by the
end of input. -/
def place : Nat → List Piece → List Token
  | offset, [] => [finish offset]
  | offset, .blank run :: pieces => place (offset + Text.byteSize run) pieces
  | offset, .lexeme item :: pieces =>
    let stop := offset + Text.byteSize item.raw
    ⟨item, offset, stop⟩ :: place stop pieces

/-- The tokens of a text. -/
def scan (text : Text) : List Token := place 0 (Piece.split text)

end Token

end PipeAssist
