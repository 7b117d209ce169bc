import PipeAssist.Toml.Scalar

/-!
# The magnitude of TOML numbers

Numbers can be written with any number of digits. An integer fits if it has a digit and at most 128
bits, with or without a sign, and a floating-point number if it is not rounded to infinity in 64
bits. Both are decided on exact numbers: rounding is to the nearest, so that a float overflows from
half a unit above the largest finite one on.
-/

set_option autoImplicit false

namespace PipeAssist.Toml

/-- The decimal `digits · 10 ^ exponent`. -/
structure Decimal where
  digits : Nat
  exponent : Int
deriving DecidableEq, Repr

/-- The number of the digits of a text that are left without underscores. -/
def numberOf (text : Text) : Nat :=
  (Text.ofDigits? 10 (text.filter Text.isDigit)).getD 0

/-- The exponent of a floating-point number, of which the text starts with the letter. -/
def exponentOf (text : Text) : Int :=
  let (negative, digits) := splitSign (text.drop 1)
  if negative then -Int.ofNat (numberOf digits) else Int.ofNat (numberOf digits)

/-- The magnitude of a floating-point number that is written with digits. -/
def Decimal.ofFloat (text : Text) : Decimal :=
  let body := (splitSign text).2
  let whole := body.takeWhile inDigits
  match body.dropWhile inDigits with
  | '.' :: rest =>
    let places := rest.takeWhile inDigits
    { digits := numberOf (whole ++ places)
      exponent := exponentOf (rest.dropWhile inDigits) - Int.ofNat (places.filter Text.isDigit).length }
  | rest => { digits := numberOf whole, exponent := exponentOf rest }

/-- The least number that is rounded to infinity in 64 bits: `2 ^ 1024 - 2 ^ 970`. -/
def floatLimit : Nat := 18014398509481983 * Nat.pow 2 970

/-- Whether a decimal is rounded to a finite number in 64 bits. A decimal whose first digit stands at
a place of ten to the 309 or more is too large and one whose first digit stands below ten to the 308
is not; only between them the digits matter. -/
def Decimal.fits (decimal : Decimal) : Bool :=
  let place := Int.ofNat (Nat.toDigits 10 decimal.digits).length + decimal.exponent
  if decimal.digits = 0 || place ≤ 308 then true
  else if 310 ≤ place then false
  else if 0 ≤ decimal.exponent then
    decimal.digits * Nat.pow 10 decimal.exponent.toNat < floatLimit
  else decimal.digits < floatLimit * Nat.pow 10 (-decimal.exponent).toNat

/-- Whether an integer has at most 128 bits, with or without a sign. -/
def integerFits (number : Int) : Bool :=
  let limit := Int.ofNat (Nat.pow 2 128)
  number < limit && -limit ≤ 2 * number

/-- Whether a floating-point number is finite, or is written as an infinity or as no number. -/
def floatFits (text : Text) : Bool :=
  let body := (splitSign text).2
  body = "inf".toList || body = "nan".toList || (Decimal.ofFloat text).fits

mutual

/-- Whether all numbers in a value fit. -/
def Value.fits : Value → Bool
  | .integer number => integerFits number
  | .digitless => false
  | .float text => floatFits text
  | .array items => Value.itemsFit items
  | .table fields => Value.fieldsFit fields
  | .string _ => true
  | .boolean _ => true
  | .moment _ => true

/-- Whether all numbers in a list of values fit. -/
def Value.itemsFit : List Value → Bool
  | [] => true
  | item :: rest => item.fits && Value.itemsFit rest

/-- Whether all numbers in the values of fields fit. -/
def Value.fieldsFit : List (Text × Value) → Bool
  | [] => true
  | (_, value) :: rest => value.fits && Value.fieldsFit rest

end

end PipeAssist.Toml
