import Compositor.Numeric.Decimal

/-!
# JSON values and their text

Values of JSON, an object being a list of members in the order they are written. A value is written
either without any space or over several lines.
-/

namespace Compositor.Json

open Numeric

inductive Value where
  | null
  | bool (b : Bool)
  /-- A number, by its text. -/
  | number (literal : String)
  | text (s : String)
  | list (elements : List Value)
  | object (members : List (String × Value))

/-- How a number of single precision is written: without an exponent while the point stands less
than six places before the first digit and at most thirteen after it, and always with a point
otherwise. -/
def numberStyle : DecimalStyle where
  window := some (-6, 13)
  pointZero := true
  tie := .even

namespace Value

def ofNat (n : Nat) : Value := number (toString n)

/-- A number of single precision; one that is not finite has no form but null. -/
def ofSingle (x : Single) : Value :=
  if x.isFinite then number (numberStyle.render x) else null

/-- An object with its members in the order of their names; other values stay as they are. -/
def sortMembers : Value → Value
  | object members => object (members.mergeSort fun a b => a.1 ≤ b.1)
  | v => v

end Value

/-- The letter that stands for a character after a backslash, where there is one. -/
def escapeLetter? (c : Char) : Option Char :=
  if c = '"' then some '"'
  else if c = '\\' then some '\\'
  else if c = '\x08' then some 'b'
  else if c = '\x0c' then some 'f'
  else if c = '\n' then some 'n'
  else if c = '\r' then some 'r'
  else if c = '\t' then some 't'
  else none

/-- The two last hexadecimal digits of a control character. -/
def controlDigits (c : Char) : List Char :=
  [Nat.digitChar (c.toNat / 16), Nat.digitChar (c.toNat % 16)]

/-- A character as it is written inside quotes. -/
def escape (c : Char) : List Char :=
  match escapeLetter? c with
  | some letter => ['\\', letter]
  | none => if c.toNat < 0x20 then '\\' :: 'u' :: '0' :: '0' :: controlDigits c else [c]

/-- A text as it is written, with its quotes. -/
def quote (s : String) : List Char := '"' :: s.toList.flatMap escape ++ ['"']

namespace Value

mutual

def compact : Value → List Char
  | null => "null".toList
  | bool b => if b then "true".toList else "false".toList
  | number literal => literal.toList
  | text s => quote s
  | list elements => '[' :: compactElements elements
  | object members => '\x7b' :: compactMembers members

/-- The elements of a list and its end. -/
def compactElements : List Value → List Char
  | [] => [']']
  | [v] => v.compact ++ [']']
  | v :: w :: rest => v.compact ++ ',' :: compactElements (w :: rest)

/-- The members of an object and its end. -/
def compactMembers : List (String × Value) → List Char
  | [] => ['\x7d']
  | [(name, v)] => quote name ++ ':' :: v.compact ++ ['\x7d']
  | (name, v) :: m :: rest =>
    quote name ++ ':' :: v.compact ++ ',' :: compactMembers (m :: rest)

end

/-- A line break and the indentation of the given depth, two blanks a level. -/
def lineBreak (depth : Nat) : List Char := '\n' :: List.replicate (2 * depth) ' '

mutual

/-- A value over several lines, each element and each member on one of its own. -/
def pretty (depth : Nat) : Value → List Char
  | null => "null".toList
  | bool b => if b then "true".toList else "false".toList
  | number literal => literal.toList
  | text s => quote s
  | list [] => ['[', ']']
  | object [] => ['\x7b', '\x7d']
  | list (v :: rest) => '[' :: prettyElements depth (v :: rest)
  | object (m :: rest) => '\x7b' :: prettyMembers depth (m :: rest)

/-- The elements of a list at the given depth, each on a line of its own, and its end. -/
def prettyElements (depth : Nat) : List Value → List Char
  | [] => [']']
  | [v] => lineBreak (depth + 1) ++ v.pretty (depth + 1) ++ lineBreak depth ++ [']']
  | v :: w :: rest =>
    lineBreak (depth + 1) ++ v.pretty (depth + 1) ++ ',' :: prettyElements depth (w :: rest)

/-- The members of an object at the given depth, each on a line of its own, and its end. -/
def prettyMembers (depth : Nat) : List (String × Value) → List Char
  | [] => ['\x7d']
  | [(name, v)] =>
    lineBreak (depth + 1) ++ quote name ++ ':' :: ' ' :: v.pretty (depth + 1) ++
      lineBreak depth ++ ['\x7d']
  | (name, v) :: m :: rest =>
    lineBreak (depth + 1) ++ quote name ++ ':' :: ' ' :: v.pretty (depth + 1) ++
      ',' :: prettyMembers depth (m :: rest)

end

end Value

end Compositor.Json
