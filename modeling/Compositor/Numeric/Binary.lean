/-!
# Binary floating point

Numbers in a binary interchange format, held as their bits and computed with exactly. Every finite
number is a whole multiple of the least positive one, so a magnitude is a natural number counted in
that unit, an operation is exact arithmetic on naturals, and its result is rounded once: to the
nearest number of the format, a tie going to the even one.
-/

namespace Compositor

-- Powers of natural numbers are the core library's, whatever else is imported.
attribute [scoped instance (high)] instPowNat

end Compositor

namespace Compositor.Numeric

/-- Rounds the quotient `num / den` to the nearest natural number, a half to the even one. -/
def roundHalfEven (num den : Nat) : Nat :=
  let quotient := num / den
  let twice := 2 * (num % den)
  if twice < den then quotient
  else if den < twice then quotient + 1
  else quotient + quotient % 2

/-- A binary format, given by the widths of its two fields. -/
structure Format where
  fraction : Nat
  exponent : Nat
deriving DecidableEq, Repr

namespace Format

def single : Format := ⟨23, 8⟩

def double : Format := ⟨52, 11⟩

/-- All bits of a number: sign, exponent and fraction. -/
def width (f : Format) : Nat := 1 + f.exponent + f.fraction

/-- The weight of the sign bit; what lies below it codes the magnitude. -/
def signWeight (f : Format) : Nat := 2 ^ (f.exponent + f.fraction)

/-- The code of infinity. Codes below it are finite magnitudes in ascending order, those above it
are no numbers. -/
def infinity (f : Format) : Nat := (2 ^ f.exponent - 1) * 2 ^ f.fraction

/-- How many units, that is least positive numbers, make one. -/
def one (f : Format) : Nat := 2 ^ (2 ^ (f.exponent - 1) - 2 + f.fraction)

/-- The magnitude in units that a finite code stands for. -/
def magnitude (f : Format) (code : Nat) : Nat :=
  let power := code / 2 ^ f.fraction
  if power = 0 then code else (2 ^ f.fraction + code % 2 ^ f.fraction) * 2 ^ (power - 1)

/-- The code of the magnitude nearest to `num / den` units. A carry out of the fraction runs into
the exponent, which is the next code, and a magnitude too large becomes infinity. -/
def round (f : Format) (num den : Nat) : Nat :=
  let shift := (num / den).log2 - f.fraction
  min (shift * 2 ^ f.fraction + roundHalfEven num (den * 2 ^ shift)) f.infinity

end Format

/-- A number of the format `f`. -/
structure Binary (f : Format) where
  /-- The bits, the sign first. -/
  bits : BitVec f.width
deriving DecidableEq, Repr

/-- What the bits of a number say. -/
inductive Reading where
  | nan
  | infinite (negative : Bool)
  /-- A finite number, its magnitude counted in units. -/
  | finite (negative : Bool) (units : Nat)
deriving DecidableEq, Repr

namespace Binary

variable {f : Format}

/-- The number with the given bits; bits beyond the format's width are dropped. -/
def ofBits (n : Nat) : Binary f := ⟨BitVec.ofNat _ n⟩

/-- The bits as a natural number. -/
def toBits (x : Binary f) : Nat := x.bits.toNat

/-- The number with the given sign and magnitude code. -/
def ofCode (negative : Bool) (code : Nat) : Binary f :=
  ofBits (if negative then f.signWeight + code else code)

/-- The value that is no number. -/
def nan : Binary f := ofCode false (f.infinity + 2 ^ (f.fraction - 1))

/-- Whether the sign bit is set. -/
def negative (x : Binary f) : Bool := f.signWeight ≤ x.toBits

/-- The bits below the sign. -/
def code (x : Binary f) : Nat := x.toBits % f.signWeight

/-- What the bits say. -/
def read (x : Binary f) : Reading :=
  if x.code < f.infinity then .finite x.negative (f.magnitude x.code)
  else if x.code = f.infinity then .infinite x.negative
  else .nan

/-- Whether the value is no number. -/
def isNaN (x : Binary f) : Bool := f.infinity < x.code

/-- Whether the value is a number and not an infinity. -/
def isFinite (x : Binary f) : Bool := x.code < f.infinity

/-- The number nearest to `num / den` units, with the given sign. -/
def ofUnits (negative : Bool) (num den : Nat) : Binary f := ofCode negative (f.round num den)

/-- The number nearest to `num / den`, with the given sign. -/
def ofRatio (negative : Bool) (num den : Nat) : Binary f := ofUnits negative (num * f.one) den

/-- The number nearest to a natural number. -/
def ofNat (n : Nat) : Binary f := ofRatio false n 1

/-- The number nearest to an integer. -/
def ofInt (n : Int) : Binary f := ofRatio (n < 0) n.natAbs 1

instance : Zero (Binary f) where
  zero := ofBits 0

instance : Inhabited (Binary f) where
  default := 0

/-- The same number with the other sign. -/
def neg (x : Binary f) : Binary f := ofCode (!x.negative) x.code

/-- The exact sum, rounded. A sum of zero is negative only if both operands are. -/
def add (x y : Binary f) : Binary f :=
  match x.read, y.read with
  | .nan, _ => nan
  | _, .nan => nan
  | .infinite s, .infinite t => if s = t then ofCode s f.infinity else nan
  | .infinite s, _ => ofCode s f.infinity
  | _, .infinite t => ofCode t f.infinity
  | .finite s m, .finite t n =>
    if s = t then ofUnits s (m + n) 1
    else if m = n then ofCode false 0
    else if n < m then ofUnits s (m - n) 1
    else ofUnits t (n - m) 1

/-- The exact product, rounded. -/
def mul (x y : Binary f) : Binary f :=
  match x.read, y.read with
  | .nan, _ => nan
  | _, .nan => nan
  | .infinite s, .infinite t => ofCode (s != t) f.infinity
  | .infinite s, .finite t n => if n = 0 then nan else ofCode (s != t) f.infinity
  | .finite s m, .infinite t => if m = 0 then nan else ofCode (s != t) f.infinity
  | .finite s m, .finite t n => ofUnits (s != t) (m * n) f.one

/-- The exact quotient, rounded. -/
def div (x y : Binary f) : Binary f :=
  match x.read, y.read with
  | .nan, _ => nan
  | _, .nan => nan
  | .infinite _, .infinite _ => nan
  | .infinite s, .finite t _ => ofCode (s != t) f.infinity
  | .finite s _, .infinite t => ofCode (s != t) 0
  | .finite s m, .finite t n =>
    if n = 0 then (if m = 0 then nan else ofCode (s != t) f.infinity)
    else ofUnits (s != t) (m * f.one) n

instance : Neg (Binary f) where
  neg := neg

instance : Add (Binary f) where
  add := add

instance : Sub (Binary f) where
  sub x y := add x (neg y)

instance : Mul (Binary f) where
  mul := mul

instance : Div (Binary f) where
  div := div

/-- Whether `x` is less than `y`. What is no number is less than nothing and above nothing, and the
two zeros are equal. -/
def lt (x y : Binary f) : Bool :=
  match x.read, y.read with
  | .nan, _ => false
  | _, .nan => false
  | .infinite s, .infinite t => s && !t
  | .infinite s, .finite _ _ => s
  | .finite _ _, .infinite t => !t
  | .finite s m, .finite t n =>
    match s, t with
    | false, false => m < n
    | true, true => n < m
    | true, false => 0 < m || 0 < n
    | false, true => false

/-- The nearest number of another format, with the sign kept. -/
def convert (g : Format) (x : Binary f) : Binary g :=
  match x.read with
  | .nan => nan
  | .infinite s => ofCode s g.infinity
  | .finite s m => ofRatio s m f.one

/-- The natural number nearest to a finite number, a half going up; zero for negative numbers. -/
def roundHalfUp? (x : Binary f) : Option Nat :=
  match x.read with
  | .finite false m => some ((2 * m + f.one) / (2 * f.one))
  | .finite true _ => some 0
  | _ => none

end Binary

abbrev Single := Binary Format.single

abbrev Double := Binary Format.double

namespace Single

/-- Whether half of `2 ^ -n` is lost when it is added to one and the sum is rounded. -/
def halfIsLost (n : Nat) : Bool :=
  decide ((Binary.ofRatio false (2 ^ (n + 1) + 1) (2 ^ (n + 1)) : Single) = Binary.ofNat 1)

/-- The machine epsilon: the first of `1/2, 1/4, …` whose half is lost beside one. -/
def epsilon : Single :=
  let power := (List.range' 1 64).find? halfIsLost
  Binary.ofRatio false 1 (2 ^ power.getD 0)

end Single

end Compositor.Numeric
