import PipeAssist.Toml.Scalar

/-!
# TOML strings

The four kinds of strings. Basic strings have escapes, literal strings have none; both also come in
a form over several lines, between three quotes. The readers start behind the opening quotes and
return the value and what follows the closing ones.
-/

set_option autoImplicit false

namespace PipeAssist.Toml

/-- Characters that may stand in comments and strings: no control characters but the tab. -/
def isPrintable (c : Char) : Bool := c = '\t' || (0x20 ≤ c.toNat && c.toNat ≠ 0x7F)

/-- The blanks within a line. -/
def isSpace (c : Char) : Bool := c = ' ' || c = '\t'

/-- Whether a text begins with a line break. -/
def startsLine : Text → Bool
  | '\n' :: _ => true
  | '\r' :: '\n' :: _ => true
  | _ => false

/-- The character of a hexadecimal code, if it is one. -/
def ofCode? (digits : Text) : Option Char :=
  match Text.ofDigits? 16 digits with
  | none => none
  | some n => if n < 0xD800 || (0xDFFF < n && n ≤ 0x10FFFF) then some (Char.ofNat n) else none

/-- The character that an escape denotes, and how many characters after the backslash it takes. -/
def escape? : Text → Option (Char × Nat)
  | 'b' :: _ => some (Char.ofNat 0x8, 1)
  | 't' :: _ => some ('\t', 1)
  | 'n' :: _ => some ('\n', 1)
  | 'f' :: _ => some (Char.ofNat 0xC, 1)
  | 'r' :: _ => some ('\r', 1)
  | 'e' :: _ => some (Char.ofNat 0x1B, 1)
  | '"' :: _ => some ('"', 1)
  | '\\' :: _ => some ('\\', 1)
  | 'x' :: rest => if 2 ≤ rest.length then (ofCode? (rest.take 2)).map (·, 3) else none
  | 'u' :: rest => if 4 ≤ rest.length then (ofCode? (rest.take 4)).map (·, 5) else none
  | 'U' :: rest => if 8 ≤ rest.length then (ofCode? (rest.take 8)).map (·, 9) else none
  | _ => none

/-- Puts a character in front of a string that was read. -/
def andThen (c : Char) (read : Option (Text × Text)) : Option (Text × Text) :=
  read.map fun (value, rest) => (c :: value, rest)

/-- A basic string, when the first `skip` characters belong to an escape. -/
def basic : Nat → Text → Option (Text × Text)
  | _, [] => none
  | skip + 1, _ :: rest => basic skip rest
  | 0, c :: rest =>
    if c = '"' then some ([], rest)
    else if c = '\\' then
      match escape? rest with
      | none => none
      | some (meaning, length) => andThen meaning (basic length rest)
    else if isPrintable c then andThen c (basic 0 rest)
    else none

/-- A literal string. -/
def literal : Text → Option (Text × Text)
  | [] => none
  | c :: rest =>
    if c = '\'' then some ([], rest)
    else if isPrintable c then andThen c (literal rest)
    else none

/-- The quotes of a string that end with its three closing ones, and what follows them: up to two
quotes before the closing ones belong to the string. -/
def closing? (quote : Char) (text : Text) : Option (Text × Text) :=
  let run := (text.takeWhile (· = quote)).length
  if run < 3 then none
  else
    let inside := min (run - 3) 2
    some (List.replicate inside quote, text.drop (inside + 3))

/-- A character of a string over several lines: printable, or part of a line break. -/
def mayStand (c : Char) (rest : Text) : Bool :=
  isPrintable c || c = '\n' || (c = '\r' && rest.head? = some '\n')

/-- The number of characters of the blanks and line breaks that a text begins with. -/
def gapLength : Text → Nat
  | [] => 0
  | '\r' :: '\n' :: rest => gapLength rest + 2
  | c :: rest => if isSpace c || c = '\n' then gapLength rest + 1 else 0

/-- A basic string over several lines, when the first `skip` characters belong to an escape. A
backslash at the end of a line removes all blanks and line breaks up to the next character. -/
def basicLines : Nat → Text → Option (Text × Text)
  | _, [] => none
  | skip + 1, _ :: rest => basicLines skip rest
  | 0, c :: rest =>
    match closing? '"' (c :: rest) with
    | some ended => some ended
    | none =>
      if c = '\\' then
        if startsLine (rest.dropWhile isSpace) then basicLines (gapLength rest) rest
        else
          match escape? rest with
          | none => none
          | some (meaning, length) => andThen meaning (basicLines length rest)
      else if mayStand c rest then andThen c (basicLines 0 rest)
      else none

/-- A literal string over several lines. -/
def literalLines : Text → Option (Text × Text)
  | [] => none
  | c :: rest =>
    match closing? '\'' (c :: rest) with
    | some ended => some ended
    | none => if mayStand c rest then andThen c (literalLines rest) else none

/-- The text without the line break it begins with. -/
def dropFirstBreak : Text → Text
  | '\n' :: rest => rest
  | '\r' :: '\n' :: rest => rest
  | text => text

/-- A string of any kind, with its opening quotes. -/
def string? : Text → Option (Text × Text)
  | '"' :: '"' :: '"' :: rest => basicLines 0 (dropFirstBreak rest)
  | '"' :: rest => basic 0 rest
  | '\'' :: '\'' :: '\'' :: rest => literalLines (dropFirstBreak rest)
  | '\'' :: rest => literal rest
  | _ => none

end PipeAssist.Toml
