/-!
# Indented JSON

The JSON values that reports need and their indented form: two spaces a level, one member a line,
empty arrays and objects on one line. Strings escape the quote, the backslash and the characters
below U+0020, the latter by their short form where there is one.
-/

set_option autoImplicit false

namespace PipeAssist.Report

/-- The JSON values of reports. -/
inductive Json where
  | null
  | boolean (value : Bool)
  | text (value : String)
  | array (items : List Json)
  | object (members : List (String × Json))

namespace Json

/-- A hexadecimal digit in lower case. -/
def hexDigit (n : Nat) : Char := ("0123456789abcdef".toList).getD n '0'

/-- A character inside a JSON string. -/
def quoteChar (c : Char) : List Char :=
  if c = '"' then ['\\', '"']
  else if c = '\\' then ['\\', '\\']
  else if c = '\n' then ['\\', 'n']
  else if c = '\r' then ['\\', 'r']
  else if c = '\t' then ['\\', 't']
  else if c.toNat = 0x8 then ['\\', 'b']
  else if c.toNat = 0xC then ['\\', 'f']
  else if c.toNat < 0x20 then
    ['\\', 'u', '0', '0', hexDigit (c.toNat / 16), hexDigit (c.toNat % 16)]
  else [c]

/-- A JSON string. -/
def quote (text : String) : String := String.ofList ('"' :: text.toList.flatMap quoteChar ++ ['"'])

/-- The line break before a line at a depth. -/
def newline (depth : Nat) : String := "\n" ++ String.ofList (List.replicate (2 * depth) ' ')

mutual

/-- The value, indented for a place at `depth`. -/
def render (depth : Nat) : Json → String
  | .null => "null"
  | .boolean true => "true"
  | .boolean false => "false"
  | .text value => quote value
  | .array [] => "[]"
  | .array (item :: items) =>
    "[" ++ newline (depth + 1) ++ render (depth + 1) item ++ renderItems (depth + 1) items ++
      newline depth ++ "]"
  | .object [] => "\x7b\x7d"
  | .object ((key, value) :: members) =>
    "\x7b" ++ newline (depth + 1) ++ quote key ++ ": " ++ render (depth + 1) value ++
      renderMembers (depth + 1) members ++ newline depth ++ "\x7d"

/-- Further items of an array. -/
def renderItems (depth : Nat) : List Json → String
  | [] => ""
  | item :: items => "," ++ newline depth ++ render depth item ++ renderItems depth items

/-- Further members of an object. -/
def renderMembers (depth : Nat) : List (String × Json) → String
  | [] => ""
  | (key, value) :: members =>
    "," ++ newline depth ++ quote key ++ ": " ++ render depth value ++ renderMembers depth members

end

/-- The indented form of a value. -/
def pretty (json : Json) : String := render 0 json

end Json

end PipeAssist.Report
