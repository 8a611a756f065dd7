import Compositor.Json.Fault
import Compositor.Text.Numeral

/-!
# Scanning words, quoted texts and numbers

Each scanner takes the characters that remain and gives what it read with those that remain after
it, or the first fault met.
-/

namespace Compositor.Json

open Numeric

/-- What a scanner of `α` answers. -/
abbrev Scan (α : Type) := Except Fault (α × List Char)

/-- Whether a character may stand between the parts of a text. -/
def isSpace (c : Char) : Bool := c == ' ' || c == '\t' || c == '\n' || c == '\r'

/-- The text from its first character that is no space. -/
def skipSpace (s : List Char) : List Char := s.dropWhile isSpace

/-- Whether a character is a decimal digit. -/
def isDigit (c : Char) : Bool := '0' ≤ c && c ≤ '9'

/-- Takes the characters of a fixed word off a text. -/
def scanWord : List Char → List Char → Except Fault (List Char)
  | [], s => .ok s
  | _ :: _, [] => .error .endInValue
  | w :: word, c :: s => if c = w then scanWord word s else .error .expectedWord

/-! ## Quoted texts -/

/-- The value of a hexadecimal digit. -/
def hexDigit? (c : Char) : Option Nat :=
  if '0' ≤ c ∧ c ≤ '9' then some (c.toNat - '0'.toNat)
  else if 'a' ≤ c ∧ c ≤ 'f' then some (c.toNat - 'a'.toNat + 10)
  else if 'A' ≤ c ∧ c ≤ 'F' then some (c.toNat - 'A'.toNat + 10)
  else none

/-- The character that a letter after a backslash stands for; `u` stands for none. -/
def unescapeLetter? (c : Char) : Option Char :=
  if c = '"' ∨ c = '\\' ∨ c = '/' then some c
  else if c = 'b' then some '\x08'
  else if c = 'f' then some '\x0c'
  else if c = 'n' then some '\n'
  else if c = 'r' then some '\r'
  else if c = 't' then some '\t'
  else none

/-- The fault of four hexadecimal digits of which `missing` were still to come before `rest`. -/
def hexFault (missing : Nat) (rest : List Char) : Fault :=
  let bytes := (rest.take missing).foldl (fun n c => n + c.utf8Size) 0
  if bytes < missing then .endInText else .invalidEscape

/-- Where a scan stands between quotes. -/
inductive TextSpot where
  /-- Between two characters. -/
  | plain
  /-- After a backslash. -/
  | escape
  /-- Among the hexadecimal digits of an escape, `missing` of which are to come; `high` is the first
  half of a pair of surrogates, read before. -/
  | hex (missing value : Nat) (high : Option Nat)
  /-- After the first half of a pair of surrogates. -/
  | pairBackslash (high : Nat)
  /-- After that and a backslash. -/
  | pairLetter (high : Nat)

/-- Puts a character in front of what was scanned. -/
def consScanned (c : Char) : Scan (List Char) → Scan (List Char) :=
  Except.map fun r => (c :: r.1, r.2)

/-- The character of a pair of surrogates. -/
def pairChar (high low : Nat) : Char :=
  Char.ofNat ((high - 0xD800) * 0x400 + (low - 0xDC00) + 0x10000)

/-- Scans a text up to its closing quote. -/
def scanText : TextSpot → List Char → Scan (List Char)
  | _, [] => .error .endInText
  | .plain, c :: s =>
    if c = '"' then .ok ([], s)
    else if c = '\\' then scanText .escape s
    else if c.toNat < 0x20 then .error .controlCharacter
    else consScanned c (scanText .plain s)
  | .escape, c :: s =>
    if c = 'u' then scanText (.hex 4 0 none) s
    else
      match unescapeLetter? c with
      | some d => consScanned d (scanText .plain s)
      | none => .error .invalidEscape
  | .hex missing value high, c :: s =>
    match hexDigit? c with
    | none => .error (hexFault missing (c :: s))
    | some d =>
      let unit := 16 * value + d
      if 1 < missing then scanText (.hex (missing - 1) unit high) s
      else
        match high with
        | some high =>
          if 0xDC00 ≤ unit ∧ unit ≤ 0xDFFF then
            consScanned (pairChar high unit) (scanText .plain s)
          else .error .loneSurrogate
        | none =>
          if 0xDC00 ≤ unit ∧ unit ≤ 0xDFFF then .error .loneSurrogate
          else if 0xD800 ≤ unit ∧ unit ≤ 0xDBFF then scanText (.pairBackslash unit) s
          else consScanned (Char.ofNat unit) (scanText .plain s)
  | .pairBackslash high, c :: s =>
    if c = '\\' then scanText (.pairLetter high) s else .error .endOfEscape
  | .pairLetter high, c :: s =>
    if c = 'u' then scanText (.hex 4 0 (some high)) s else .error .endOfEscape

/-- Scans the rest of a text whose opening quote was read. -/
def scanString (s : List Char) : Scan String :=
  (scanText .plain s).map fun r => (String.ofList r.1, r.2)

/-! ## Numbers -/

/-- A number as it was read. -/
inductive Number where
  /-- A natural number below `2 ^ 64`. -/
  | natural (n : Nat)
  /-- A negative integer down to `-2 ^ 63`, by its magnitude. -/
  | negative (n : Nat)
  /-- Any other number. -/
  | float (x : Double)
deriving DecidableEq, Repr

/-- What is found where a number stands. -/
def Number.found : Number → Found
  | natural n => .integer n
  | negative n => .integer (-n)
  | float x => .float x

/-- Appends digits to a number while it stays below `2 ^ 64`, and gives the digits left over. -/
def appendDigits (n : Nat) : List Char → Nat × List Char
  | [] => (n, [])
  | c :: s =>
    let next := 10 * n + (c.toNat - '0'.toNat)
    if next < UInt64.size then appendDigits next s else (n, c :: s)

/-- The largest power of ten that numbers of double precision hold. -/
def maxPower : Nat := 308

/-- A power of ten in double precision. -/
def powerOfTen (n : Nat) : Double := Binary.ofNat (10 ^ n)

/-- Divides by a power of ten, in steps of the largest one there is. -/
def divideByPower (x : Double) (power : Nat) : Double :=
  if power ≤ maxPower then x / powerOfTen power
  else if x = 0 then x
  else divideByPower (x / powerOfTen maxPower) (power - maxPower)
termination_by power
decreasing_by simp_all [maxPower]; omega

/-- The number `significand · 10 ^ exponent`: the significand is rounded, and so is each step that
scales it. -/
def scaled (significand : Nat) (exponent : Int) : Except Fault Double :=
  let x : Double := Binary.ofNat significand
  if exponent < 0 then .ok (divideByPower x exponent.natAbs)
  else if maxPower < exponent.natAbs then
    if x = 0 then .ok x else .error .numberOutOfRange
  else
    let y := x * powerOfTen exponent.natAbs
    if y.isFinite then .ok y else .error .numberOutOfRange

/-- A number with its sign put in front. -/
def signed (negative : Bool) (x : Double) : Double := if negative then -x else x

/-- An integer with its sign put in front. Minus zero and what is below `-2 ^ 63` are no integers.
-/
def signedInteger (negative : Bool) (n : Nat) : Number :=
  if negative then
    if 0 < n ∧ n ≤ 2 ^ (63 : Nat) then .negative n else .float (-(Binary.ofNat n))
  else .natural n

/-- Scans the exponent of a number after its mark and gives the number. -/
def scanExponent (negative : Bool) (significand : Nat) (exponent : Int) (s : List Char) :
    Scan Number :=
  let down := s.head? == some '-'
  let digits := if down || s.head? == some '+' then s.drop 1 else s
  match digits with
  | [] => .error .endInValue
  | c :: _ =>
    if isDigit c then
      let rest := digits.dropWhile isDigit
      let power := (Text.natural? (digits.takeWhile isDigit)).getD 0
      if power < 2 ^ (31 : Nat) then
        (scaled significand (if down then exponent - power else exponent + power)).map fun x =>
          (.float (signed negative x), rest)
      else if significand ≠ 0 ∧ !down then .error .numberOutOfRange
      else .ok (.float (signed negative 0), rest)
    else .error .invalidNumber

/-- Scans what follows the point of a number, or its end, and gives the number. -/
def scanScale (negative : Bool) (significand : Nat) (exponent : Int) (s : List Char) :
    Scan Number :=
  match s with
  | 'e' :: s => scanExponent negative significand exponent s
  | 'E' :: s => scanExponent negative significand exponent s
  | s => (scaled significand exponent).map fun x => (.float (signed negative x), s)

/-- Scans a number whose sign was read. Digits beyond `2 ^ 64` do not count, but those before the
point still scale the number. -/
def scanUnsigned (negative : Bool) (s : List Char) : Scan Number :=
  let whole := s.takeWhile isDigit
  let rest := s.dropWhile isDigit
  match s with
  | [] => .error .endInValue
  | first :: _ =>
    if !isDigit first then .error .invalidNumber
    else if first == '0' && 1 < whole.length then .error .invalidNumber
    else
      let (significand, dropped) := appendDigits 0 whole
      match rest with
      | '.' :: fraction =>
        let places := fraction.takeWhile isDigit
        match places, fraction with
        | [], [] => .error .endInValue
        | [], _ => .error .invalidNumber
        | _, _ =>
          let (significand, ignored) := appendDigits significand places
          scanScale negative significand
            ((dropped.length : Int) - (places.length - ignored.length : Nat))
            (fraction.dropWhile isDigit)
      | 'e' :: _ => scanScale negative significand dropped.length rest
      | 'E' :: _ => scanScale negative significand dropped.length rest
      | _ =>
        if dropped.isEmpty then .ok (signedInteger negative significand, rest)
        else scanScale negative significand dropped.length rest

def scanNumber : List Char → Scan Number
  | '-' :: s => scanUnsigned true s
  | s => scanUnsigned false s

end Compositor.Json
