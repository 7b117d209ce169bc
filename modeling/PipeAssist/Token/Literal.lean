import PipeAssist.Text.Basic

/-!
# Quoted literals

A literal is a quote, a body and the same quote again. In the body a backslash and the character
after it belong together, so an escaped quote does not close the literal. A literal without its
closing quote runs to the end of the text. This module reads the text after an opening quote
(`Literal.read`), tells from the raw text alone whether a literal is still open (`Literal.isOpen`),
gives the characters that close an open one (`Literal.closing`), and spells a value so that it
reads back (`Literal.spell`).
-/

set_option autoImplicit false

namespace PipeAssist

/-- What stands after an opening quote: the raw characters up to and including the closing quote,
the value they denote, and whether the closing quote was there. -/
structure Literal where
  raw : Text
  value : Text
  closed : Bool
deriving DecidableEq, Repr

namespace Literal

/-- The characters that open and close literals. -/
def isQuote (c : Char) : Bool := c = '\'' || c = '"'

/-- What a backslash followed by `c` stands for. A pair without a meaning of its own stands for
itself. -/
def unescape (c : Char) : Text :=
  if c = 'n' then ['\n']
  else if c = 't' then ['\t']
  else if c = 'r' then ['\r']
  else if c = '\\' || c = '\'' || c = '"' then [c]
  else ['\\', c]

/-- Reads the text after an opening `quote`. -/
def read (quote : Char) : Text → Literal
  | [] => ⟨[], [], false⟩
  | ['\\'] => ⟨['\\'], ['\\'], false⟩
  | '\\' :: c :: cs =>
    let rest := read quote cs
    ⟨'\\' :: c :: rest.raw, unescape c ++ rest.value, rest.closed⟩
  | c :: cs =>
    if c = quote then ⟨[c], [], true⟩
    else
      let rest := read quote cs
      ⟨c :: rest.raw, c :: rest.value, rest.closed⟩

/-- Whether a text ends in an odd run of backslashes, so that the next character is escaped. -/
def endsInEscape (text : Text) : Bool := Text.trailingRun '\\' text % 2 = 1

/-- Whether the raw text of a literal, opening quote included, lacks its closing quote: it does not
end in the quote, or that last quote is escaped. -/
def isOpen : Text → Bool
  | [] => false
  | quote :: body => body.getLast? ≠ some quote || endsInEscape body.dropLast

/-- What has to be appended to the raw text of an open literal to close it without changing its
value: the quote, after a second backslash if one is dangling. -/
def closing : Text → Text
  | [] => []
  | quote :: body => if endsInEscape body then ['\\', quote] else [quote]

/-- The characters of a value between single quotes. -/
def spellBody : Text → Text
  | [] => []
  | c :: cs => if c = '\'' || c = '\\' then '\\' :: c :: spellBody cs else c :: spellBody cs

/-- A value as it is written after `=`: dotted words as they are, anything else in single quotes. -/
def spell (value : Text) : Text :=
  if Text.isDottedWord value then value else '\'' :: (spellBody value ++ ['\''])

end Literal

end PipeAssist
