import PipeAssist.Text.Digits
import PipeAssist.Toml.Value

/-!
# TOML scalars

The values that are written without quotes or brackets: booleans, integers, floating-point numbers,
dates and times.
-/

set_option autoImplicit false

namespace PipeAssist.Toml

/-- The digits of a number without the underscores between them. There must be a digit on both sides
of an underscore, and at least one digit. -/
def plainDigits? (base : Nat) : Text → Option Text
  | [] => none
  | [c] => if (Text.digit? base c).isSome then some [c] else none
  | c :: '_' :: rest =>
    if (Text.digit? base c).isSome then (plainDigits? base rest).map (c :: ·) else none
  | c :: rest => if (Text.digit? base c).isSome then (plainDigits? base rest).map (c :: ·) else none

/-- The decimal digits of an integer, which has no superfluous zero in front. -/
def integerDigits? (text : Text) : Option Text :=
  match plainDigits? 10 text with
  | some ['0'] => some ['0']
  | some ('0' :: _) => none
  | other => other

/-- The sign of a number and what follows it. -/
def splitSign : Text → Bool × Text
  | '-' :: rest => (true, rest)
  | '+' :: rest => (false, rest)
  | text => (false, text)

/-- An integer of any size: decimal with an optional sign, or hexadecimal, octal or binary. -/
def integer? (text : Text) : Option Int :=
  let natural (base : Nat) (digits : Option Text) : Option Int :=
    (digits.bind (Text.ofDigits? base)).map Int.ofNat
  match text with
  | '0' :: 'x' :: digits => natural 16 (plainDigits? 16 digits)
  | '0' :: 'o' :: digits => natural 8 (plainDigits? 8 digits)
  | '0' :: 'b' :: digits => natural 2 (plainDigits? 2 digits)
  | _ =>
    let (negative, digits) := splitSign text
    (natural 10 (integerDigits? digits)).map fun number => if negative then -number else number

/-- Whether a character can stand in a run of digits. -/
def inDigits (c : Char) : Bool := Text.isDigit c || c = '_'

/-- Whether a text is the exponent of a floating-point number. -/
def isExponent : Text → Bool
  | c :: rest => (c = 'e' || c = 'E') && (plainDigits? 10 (splitSign rest).2).isSome
  | [] => false

/-- Whether a text is a floating-point number. -/
def isFloat (text : Text) : Bool :=
  let body := (splitSign text).2
  body = "inf".toList || body = "nan".toList ||
    ((integerDigits? (body.takeWhile inDigits)).isSome &&
      match body.dropWhile inDigits with
      | '.' :: rest =>
        (plainDigits? 10 (rest.takeWhile inDigits)).isSome &&
          (rest.dropWhile inDigits = [] || isExponent (rest.dropWhile inDigits))
      | rest => isExponent rest)

/-- A number of two digits and what follows it. -/
def twoDigits? : Text → Option (Nat × Text)
  | a :: b :: rest => if Text.isDigit a && Text.isDigit b then (Text.ofDigits? 10 [a, b]).map (·, rest) else none
  | _ => none

/-- The number of days of a month. -/
def daysIn (year month : Nat) : Nat :=
  if month = 2 then
    if year % 4 = 0 && (year % 100 ≠ 0 || year % 400 = 0) then 29 else 28
  else if month = 4 || month = 6 || month = 9 || month = 11 then 30
  else 31

/-- What follows a date. -/
def afterDate? (text : Text) : Option Text := do
  let (century, rest) ← twoDigits? text
  let (decade, rest) ← twoDigits? rest
  match rest with
  | '-' :: rest =>
    let (month, rest) ← twoDigits? rest
    match rest with
    | '-' :: rest =>
      let (day, rest) ← twoDigits? rest
      if 1 ≤ month && month ≤ 12 && 1 ≤ day && day ≤ daysIn (century * 100 + decade) month then
        some rest
      else none
    | _ => none
  | _ => none

/-- What follows the fraction of a second. -/
def afterFraction? : Text → Option Text
  | '.' :: c :: rest => if Text.isDigit c then some (rest.dropWhile Text.isDigit) else none
  | '.' :: [] => none
  | text => some text

/-- What follows a time. The seconds may be missing. -/
def afterTime? (text : Text) : Option Text := do
  let (hour, rest) ← twoDigits? text
  match rest with
  | ':' :: rest =>
    let (minute, rest) ← twoDigits? rest
    if hour ≤ 23 && minute ≤ 59 then
      match rest with
      | ':' :: rest =>
        let (second, rest) ← twoDigits? rest
        if second ≤ 60 then afterFraction? rest else none
      | rest => some rest
    else none
  | _ => none

/-- Whether a text is the distance from universal time. -/
def isOffset : Text → Bool
  | ['Z'] => true
  | ['z'] => true
  | c :: rest =>
    (c = '+' || c = '-') &&
      match twoDigits? rest with
      | some (hour, ':' :: rest) =>
        match twoDigits? rest with
        | some (minute, []) => hour ≤ 23 && minute ≤ 59
        | _ => false
      | _ => false
  | [] => false

/-- Whether a text is a date, a time, or a date and a time with or without an offset. -/
def isMoment (text : Text) : Bool :=
  match afterDate? text with
  | some [] => true
  | some (c :: rest) =>
    (c = 'T' || c = 't' || c = ' ') &&
      match afterTime? rest with
      | some [] => true
      | some rest => isOffset rest
      | none => false
  | none => afterTime? text = some []

/-- Whether a text is the mark of a base with no digit behind it. -/
def isBareBase (text : Text) : Bool :=
  text = "0x".toList || text = "0o".toList || text = "0b".toList

/-- The scalar that a text denotes. -/
def scalar? (text : Text) : Option Value :=
  if text = "true".toList then some (.boolean true)
  else if text = "false".toList then some (.boolean false)
  else if isBareBase text then some .digitless
  else
    match integer? text with
    | some number => some (.integer number)
    | none =>
      if isFloat text then some (.float text)
      else if isMoment text then some (.moment text)
      else none

end PipeAssist.Toml
