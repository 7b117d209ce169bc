import PipeAssist.Toml.Assembly
import PipeAssist.Toml.Quoted

/-!
# TOML documents

A document is a sequence of lines: assignments, table headers, headers of array elements, and lines
that hold nothing but a comment. Arrays and inline tables may run over several lines. Reading a
document gives its fields, or nothing if it is no valid TOML or goes beyond the limits on the length
of keys and the depth of values.
-/

set_option autoImplicit false

namespace PipeAssist.Toml

/-- What follows blanks, line breaks and comments. In a comment only printable characters may
stand. -/
def skipFiller (inComment : Bool) : Text → Option Text
  | [] => some []
  | '\r' :: '\n' :: rest => skipFiller false rest
  | c :: rest =>
    if c = '\n' then skipFiller false rest
    else if inComment then if isPrintable c then skipFiller true rest else none
    else if isSpace c then skipFiller false rest
    else if c = '#' then skipFiller true rest
    else some (c :: rest)

/-- What follows the blanks, the comment and the line break at the end of a line. -/
def endLine (inComment : Bool) : Text → Option Text
  | [] => some []
  | '\r' :: '\n' :: rest => some rest
  | c :: rest =>
    if c = '\n' then some rest
    else if inComment then if isPrintable c then endLine true rest else none
    else if isSpace c then endLine false rest
    else if c = '#' then endLine true rest
    else none

/-- What follows the blanks within a line. -/
def skipSpace (text : Text) : Text := text.dropWhile isSpace

/-- Characters of keys without quotes. -/
def isBareKey (c : Char) : Bool :=
  (Text.digit? 10 c).isSome || (0x41 ≤ c.toNat && c.toNat ≤ 0x5A) ||
    (0x61 ≤ c.toNat && c.toNat ≤ 0x7A) || c = '_' || c = '-'

/-- One part of a key. -/
def simpleKey? : Text → Option (Text × Text)
  | '"' :: '"' :: '"' :: _ => none
  | '\'' :: '\'' :: '\'' :: _ => none
  | '"' :: rest => basic 0 rest
  | '\'' :: rest => literal rest
  | text =>
    let key := text.takeWhile isBareKey
    if key = [] then none else some (key, text.drop key.length)

/-- The largest number of parts of a dotted key. -/
def keyLimit : Nat := 80

/-- The largest number of arrays and inline tables around a value. -/
def depthLimit : Nat := 80

/-- A dotted key of at most so many parts, and what follows it and the blanks behind it. -/
def keyWithin? : Nat → Text → Option (List Text × Text)
  | 0, _ => none
  | limit + 1, text => do
    let (part, rest) ← simpleKey? (skipSpace text)
    match skipSpace rest with
    | '.' :: rest =>
      let (path, rest) ← keyWithin? limit rest
      some (part :: path, rest)
    | rest => some ([part], rest)

/-- A dotted key, and what follows it and the blanks behind it. -/
def key? (text : Text) : Option (List Text × Text) := keyWithin? keyLimit text

/-- Characters of scalars. -/
def isScalarPart (c : Char) : Bool := isBareKey c || c = '+' || c = '.' || c = ':'

/-- The text of a scalar and what follows it. A date and a time may have a blank between them. -/
def scalarText (text : Text) : Text × Text :=
  let first := text.takeWhile isScalarPart
  match text.drop first.length with
  | ' ' :: c :: rest =>
    if afterDate? first = some [] && Text.isDigit c then
      let time := (c :: rest).takeWhile isScalarPart
      (first ++ ' ' :: time, (c :: rest).drop time.length)
    else (first, ' ' :: c :: rest)
  | rest => (first, rest)

mutual

/-- A value with at most `depth` arrays and inline tables one inside the other, and what follows it.
The fuel bounds the number of values and keys. -/
def value? : Nat → Nat → Text → Option (Value × Text)
  | 0, _, _ => none
  | fuel + 1, depth, text =>
    match text with
    | '[' :: rest =>
      match depth with
      | 0 => none
      | depth + 1 => do
        let (items, rest) ← items? fuel depth (← skipFiller false rest)
        some (.array items, rest)
    | '\x7b' :: rest =>
      match depth with
      | 0 => none
      | depth + 1 => do
        let (assignments, rest) ← assignments? fuel depth (← skipFiller false rest)
        some (← inlineTable? assignments, rest)
    | c :: _ =>
      if c = '"' || c = '\'' then (string? text).map fun (value, rest) => (.string value, rest)
      else
        let (scalar, rest) := scalarText text
        (scalar? scalar).map (·, rest)
    | [] => none

/-- The items of an array up to its closing bracket. -/
def items? : Nat → Nat → Text → Option (List Value × Text)
  | 0, _, _ => none
  | _ + 1, _, ']' :: rest => some ([], rest)
  | fuel + 1, depth, text => do
    let (item, rest) ← value? fuel depth text
    match ← skipFiller false rest with
    | ',' :: rest =>
      let (items, rest) ← items? fuel depth (← skipFiller false rest)
      some (item :: items, rest)
    | ']' :: rest => some ([item], rest)
    | _ => none

/-- The assignments of an inline table up to its closing brace. Lines may end on both sides of an
equals sign, but not within a key. -/
def assignments? : Nat → Nat → Text → Option (List (List Text × Value) × Text)
  | 0, _, _ => none
  | _ + 1, _, '\x7d' :: rest => some ([], rest)
  | fuel + 1, depth, text => do
    let (path, rest) ← key? text
    match ← skipFiller false rest with
    | '=' :: rest =>
      let (value, rest) ← value? fuel depth (← skipFiller false rest)
      match ← skipFiller false rest with
      | ',' :: rest =>
        let (assignments, rest) ← assignments? fuel depth (← skipFiller false rest)
        some ((path, value) :: assignments, rest)
      | '\x7d' :: rest => some ([(path, value)], rest)
      | _ => none
    | _ => none

end

/-- A line that says something. -/
inductive Line where
  | assignment (path : List Text) (value : Value)
  | header (path : List Text)
  | element (path : List Text)

/-- The line that starts with the first character of a text, and what follows it. -/
def line? (fuel : Nat) : Text → Option (Line × Text)
  | '[' :: '[' :: rest => do
    let (path, rest) ← key? rest
    match rest with
    | ']' :: ']' :: rest => some (.element path, ← endLine false rest)
    | _ => none
  | '[' :: rest => do
    let (path, rest) ← key? rest
    match rest with
    | ']' :: rest => some (.header path, ← endLine false rest)
    | _ => none
  | text => do
    let (path, rest) ← key? text
    match rest with
    | '=' :: rest =>
      let (value, rest) ← value? fuel depthLimit (skipSpace rest)
      some (.assignment path value, ← endLine false rest)
    | _ => none

/-- The lines of a text that say something. -/
def lines? (size : Nat) : Nat → Text → Option (List Line)
  | 0, _ => none
  | fuel + 1, text => do
    match ← skipFiller false text with
    | [] => some []
    | c :: rest =>
      let (line, rest) ← line? size (c :: rest)
      let lines ← lines? size fuel rest
      some (line :: lines)

/-- The fields that lines build, when `path` is that of the last header. -/
def assemble (path : List Text) (fields : Fields) : List Line → Option Fields
  | [] => some fields
  | .assignment key value :: rest => do
    let fields ← Fields.underHeader (Fields.assign value key) path fields
    assemble path fields rest
  | .header path :: rest => do
    let fields ← Fields.openTable path fields
    assemble path fields rest
  | .element path :: rest => do
    let fields ← Fields.openElement path fields
    assemble path fields rest

/-- The table of a document, unless it is no valid TOML. A byte order mark in front is ignored. -/
def parse? (document : Text) : Option Value := do
  let text :=
    match document with
    | [] => []
    | c :: rest => if c.toNat = 0xFEFF then rest else c :: rest
  let lines ← lines? (text.length + 1) (text.length + 1) text
  let fields ← assemble [] [] lines
  some (.table (Item.fieldValues fields))

end PipeAssist.Toml
