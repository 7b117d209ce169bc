import PipeAssist.Token.Literal

/-!
# Tokens

Lexemes are classified pieces of text: their kind, the raw characters, and the value that names and
literals carry. A token is a lexeme with its byte span in the text it was cut from.
-/

set_option autoImplicit false

namespace PipeAssist

/-- The kinds of tokens of the definition language. -/
inductive Token.Kind where
  /-- A component name, a segment of an option name, or a segment of a plain value. -/
  | identifier
  /-- The bar between two components. -/
  | pipe
  /-- The two dashes before an option name. -/
  | optionMarker
  /-- The dot inside option names and plain values. -/
  | dot
  /-- The sign between an option name and its value. -/
  | equals
  /-- A quoted value. -/
  | stringLiteral
  /-- A character that the language does not use. -/
  | unknown
  /-- The end of the text. -/
  | endOfInput
deriving DecidableEq, Repr

namespace Token.Kind

/-- The characters of kinds that are always written the same way. -/
def fixedText? : Kind → Option String
  | .pipe => some "|"
  | .optionMarker => some "--"
  | .dot => some "."
  | .equals => some "="
  | _ => none

/-- The kind as messages name it. One that is always written the same way is named by its
characters in quotes. -/
def describe : Kind → String
  | .identifier => "identifier"
  | .stringLiteral => "string literal"
  | .unknown => "unknown character"
  | .endOfInput => "end of input"
  | kind => "'" ++ kind.fixedText?.getD "" ++ "'"

end Token.Kind

/-- A classified piece of text. The value is empty except for identifiers and string literals. -/
structure Lexeme where
  kind : Token.Kind
  raw : Text
  value : Text := []
deriving DecidableEq, Repr

/-- A lexeme and the bytes it covers, from `start` up to but not including `stop`. -/
structure Token extends Lexeme where
  start : Nat
  stop : Nat
deriving DecidableEq, Repr

namespace Token

/-- The token that stands for the end of a text of `size` bytes. -/
def finish (size : Nat) : Token := ⟨⟨.endOfInput, [], []⟩, size, size⟩

/-- Tokens other than the end of the text. -/
def isSignificant (token : Token) : Bool := token.kind ≠ .endOfInput

/-- Whether the token is a string literal without its closing quote. -/
def isOpenLiteral (token : Token) : Bool :=
  token.kind = .stringLiteral && Literal.isOpen token.raw

/-- The last token that is not the end of the text. -/
def lastSignificant? (tokens : List Token) : Option Token :=
  (tokens.filter isSignificant).getLast?

/-- The byte where the last of some tokens ends. Where there is none, this is the start. -/
def endOf (tokens : List Token) : Nat :=
  match tokens.getLast? with
  | none => 0
  | some token => token.stop

/-- The token list with an end of input at its last place, added after the last token if it is not
there. -/
def terminated (tokens : List Token) : List Token :=
  match tokens.getLast? with
  | none => [finish 0]
  | some last => if last.kind = .endOfInput then tokens else tokens ++ [finish last.stop]

end Token

end PipeAssist
