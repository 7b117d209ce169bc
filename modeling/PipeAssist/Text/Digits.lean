import PipeAssist.Text.Basic

/-!
# Digits

Numbers that are written with digits in a base up to sixteen.
-/

set_option autoImplicit false

namespace PipeAssist.Text

/-- The decimal digits. -/
def isDigit (c : Char) : Bool := '0'.toNat ≤ c.toNat && c.toNat ≤ '9'.toNat

/-- The value of a digit in a base up to sixteen. -/
def digit? (base : Nat) (c : Char) : Option Nat :=
  let n := c.toNat
  let value :=
    if 0x30 ≤ n && n ≤ 0x39 then n - 0x30
    else if 0x41 ≤ n && n ≤ 0x46 then n - 0x41 + 10
    else if 0x61 ≤ n && n ≤ 0x66 then n - 0x61 + 10
    else 16
  if value < base then some value else none

/-- The number written with these digits, most significant first. -/
def ofDigits? (base : Nat) (digits : Text) : Option Nat :=
  digits.foldl (fun acc c => acc.bind fun n => (digit? base c).map fun d => base * n + d) (some 0)

/-- Numbers of at most 64 bits are below this one. -/
def wordLimit : Nat := 18446744073709551616

end PipeAssist.Text
