import Compositor.Numeric.Binary

/-!
# Decimal text of binary numbers

`Binary.shortest` selects the fewest decimal digits that still identify a number among those of its
format: the reals that round to it form an interval, and the first decimal grid with a point inside
is taken. `DecimalStyle` holds the decisions on how the digits are written out.
-/

namespace Compositor.Numeric

/-- The value `digits · 10 ^ exponent`. -/
structure Decimal where
  /-- The digits, as one natural number. -/
  digits : Nat
  /-- The power of ten they are scaled by. -/
  exponent : Int
deriving DecidableEq, Repr

/-- Which of two equally close decimals is taken. -/
inductive Tie where
  /-- The one whose last digit is even. -/
  | even
  /-- The larger one. -/
  | up
deriving DecidableEq, Repr

/-- How many decimal digits a natural number has. -/
def digitCount (n : Nat) : Nat := (Nat.toDigits 10 n).length

namespace Decimal

/-- The same value without trailing zeros among the first `n` digits. -/
def trim : Nat → Decimal → Decimal
  | 0, d => d
  | n + 1, d =>
    if d.digits ≠ 0 ∧ d.digits % 10 = 0 then trim n ⟨d.digits / 10, d.exponent + 1⟩ else d

/-- Compares `d` with the fraction `num / den`. -/
def compareRatio (d : Decimal) (num den : Nat) : Ordering :=
  compare (d.digits * 10 ^ d.exponent.toNat * den) (num * 10 ^ (-d.exponent).toNat)

end Decimal

/-- The least `k` with `num / den < 10 ^ k`, for positive `num` and `den`. -/
def leadingPower (num den : Nat) : Int :=
  if num < den then 1 - (digitCount ((den - 1) / num) : Int) else digitCount (num / den)

/-- A positive number `4·m` quarters of a unit, with the interval of the reals that round to it. -/
structure RoundingInterval where
  /-- The lower end in quarters of `1 / den`. -/
  low : Nat
  /-- The number itself in quarters of `1 / den`. -/
  mid : Nat
  /-- The upper end in quarters of `1 / den`. -/
  high : Nat
  /-- What a whole is counted in. -/
  den : Nat
  /-- Whether the ends themselves round to the number. -/
  closed : Bool

namespace RoundingInterval

/-- The interval of the finite positive number with the given code. Its lower neighbour is half as
far away as the upper one when the number is a power of two above the least normal one. -/
def ofCode (f : Format) (code : Nat) : RoundingInterval :=
  let units := f.magnitude code
  let step := f.magnitude (code + 1) - units
  let below := units - f.magnitude (code - 1)
  ⟨4 * units - 2 * below, 4 * units, 4 * units + 2 * step, 4 * f.one, code % 2 = 0⟩

/-- Whether a decimal rounds to the number. -/
def holds (i : RoundingInterval) (d : Decimal) : Bool :=
  match d.compareRatio i.low i.den, d.compareRatio i.high i.den with
  | .gt, .lt => true
  | .eq, .lt => i.closed
  | .gt, .eq => i.closed
  | _, _ => false

/-- The decimal on the grid `10 ^ exponent` that rounds to the number and is closest to it. -/
def onGrid? (i : RoundingInterval) (tie : Tie) (exponent : Int) : Option Decimal :=
  let floor := i.mid * 10 ^ (-exponent).toNat / (i.den * 10 ^ exponent.toNat)
  let below : Decimal := ⟨floor, exponent⟩
  let above : Decimal := ⟨floor + 1, exponent⟩
  match i.holds below && floor != 0, i.holds above with
  | false, false => none
  | true, false => some below
  | false, true => some above
  | true, true =>
    match Decimal.compareRatio ⟨2 * floor + 1, exponent⟩ (2 * i.mid) i.den with
    | .gt => some below
    | .lt => some above
    | .eq => if tie = .even ∧ floor % 2 = 0 then some below else some above

/-- The exact decimal value, for a number that no grid tried identifies. -/
def exact (i : RoundingInterval) : Decimal :=
  let places := i.den.log2
  ⟨i.mid * 5 ^ places, -(places : Int)⟩

/-- The closest decimal with the fewest digits. Seventeen digits identify every number of the
formats in use. -/
def shortest (i : RoundingInterval) (tie : Tie) : Decimal :=
  let power := leadingPower i.mid i.den
  let found := (List.range' 1 17).findSome? fun (n : Nat) => i.onGrid? tie (power - n)
  (found.getD i.exact).trim 400

end RoundingInterval

/-- How a number is written out. -/
structure DecimalStyle where
  /-- The positions of the decimal point, counted from the first digit, for which the number is
  written without an exponent: those above the first bound up to the second; all without bounds. -/
  window : Option (Int × Int)
  /-- Whether a whole number ends in a point and a zero. -/
  pointZero : Bool
  /-- Which of two equally close decimals is written. -/
  tie : Tie

namespace DecimalStyle

/-- The digits with the point after the first `point` of them. -/
def positional (s : DecimalStyle) (digits : List Char) (point : Int) : List Char :=
  if point ≤ 0 then '0' :: '.' :: List.replicate (-point).toNat '0' ++ digits
  else
    let whole := digits.take point.toNat ++ List.replicate (point.toNat - digits.length) '0'
    match digits.drop point.toNat with
    | [] => if s.pointZero then whole ++ ['.', '0'] else whole
    | places => whole ++ '.' :: places

/-- The digits with the point after the first of them and an exponent, which always has a sign. -/
def scientific (digits : List Char) (point : Int) : List Char :=
  let mantissa :=
    match digits with
    | first :: next :: places => first :: '.' :: next :: places
    | short => short
  let exponent := point - 1
  let sign := if exponent < 0 then '-' else '+'
  mantissa ++ 'e' :: sign :: Nat.toDigits 10 exponent.natAbs

/-- A decimal with at least one digit, written out. -/
def layout (s : DecimalStyle) (d : Decimal) : List Char :=
  let digits := Nat.toDigits 10 d.digits
  let point := d.exponent + digits.length
  match s.window with
  | none => s.positional digits point
  | some (low, high) =>
    if low < point ∧ point ≤ high then s.positional digits point else scientific digits point

/-- The text of a number, with the fewest digits that identify it. -/
def render (s : DecimalStyle) {f : Format} (x : Binary f) : String :=
  let sign := if x.negative then ['-'] else []
  match x.read with
  | .nan => "NaN"
  | .infinite _ => String.ofList (sign ++ "inf".toList)
  | .finite _ 0 => String.ofList (sign ++ s.layout ⟨0, 0⟩)
  | .finite _ _ =>
    String.ofList (sign ++ s.layout ((RoundingInterval.ofCode f x.code).shortest s.tie))

/-- Numbers in messages: always written out, whole numbers without a point. -/
def plain : DecimalStyle where
  window := none
  pointZero := false
  tie := .up

end DecimalStyle

end Compositor.Numeric
