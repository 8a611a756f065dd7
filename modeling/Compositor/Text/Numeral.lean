/-!
# Decimal numerals

Numerals of ASCII digits and the numbers they denote.
-/

namespace Compositor.Text

/-- The value of a decimal digit. -/
def digit? (c : Char) : Option Nat :=
  if '0' ≤ c ∧ c ≤ '9' then some (c.toNat - '0'.toNat) else none

/-- The number that digits denote when they follow those of `start`; `none` if one is no digit. -/
def digitsFrom? (start : Nat) : List Char → Option Nat
  | [] => some start
  | c :: s => (digit? c).bind fun d => digitsFrom? (10 * start + d) s

/-- The number that a nonempty run of digits denotes. -/
def natural? : List Char → Option Nat
  | [] => none
  | s => digitsFrom? 0 s

/-- The number below `2 ^ 32` that a numeral with an optional plus sign denotes. -/
def word? (s : List Char) : Option Nat :=
  let digits := match s with
    | '+' :: digits => digits
    | digits => digits
  (natural? digits).filter (· < UInt32.size)

end Compositor.Text
