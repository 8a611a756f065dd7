import Compositor.Json.Value
import Compositor.Text.Quoted

/-!
# Why a JSON text is refused

The faults of a text, be it no JSON or not of the form that is read, each with its message.
-/

namespace Compositor.Json

open Numeric

/-- What stands in a text where something else was expected. -/
inductive Found where
  | null
  | bool (b : Bool)
  | integer (n : Int)
  | float (x : Double)
  | text (s : String)
  | list
  | object
deriving DecidableEq, Repr

/-- How a number is shown in a message: without an exponent while the point stands less than five
places before the first digit and at most sixteen after it. -/
def messageStyle : DecimalStyle where
  window := some (-5, 16)
  pointZero := true
  tie := .even

def ticked (s : String) : String := "`" ++ s ++ "`"

/-- The description of what was found. -/
def Found.describe : Found → String
  | null => "null"
  | bool b => "boolean " ++ ticked (if b then "true" else "false")
  | integer n => "integer " ++ ticked (toString n)
  | float x => "floating point " ++ ticked (messageStyle.render x)
  | text s => "string " ++ Text.quoted s
  | list => "sequence"
  | object => "map"

/-- Why a text is refused. -/
inductive Fault where
  /-- The text ends where a value should stand. -/
  | endInValue
  /-- The text ends inside an object. -/
  | endInObject
  /-- The text ends inside a list. -/
  | endInList
  /-- The text ends inside quotes. -/
  | endInText
  /-- No value starts here. -/
  | expectedValue
  /-- A word that starts like one of the three fixed ones is none of them. -/
  | expectedWord
  /-- A member name is not followed by a colon. -/
  | expectedColon
  /-- An element is followed neither by a comma nor by the end of the list. -/
  | expectedListEnd
  /-- A member is followed neither by a comma nor by the end of the object. -/
  | expectedObjectEnd
  /-- A member name is no text. -/
  | keyNotText
  /-- A comma stands before the end of a list or an object. -/
  | trailingComma
  /-- Something follows the value. -/
  | trailingText
  | invalidNumber
  /-- A number is too large. -/
  | numberOutOfRange
  | invalidEscape
  /-- A control character stands inside quotes. -/
  | controlCharacter
  /-- One half of a pair of surrogates stands alone. -/
  | loneSurrogate
  /-- The first half of a pair of surrogates is not followed by an escape. -/
  | endOfEscape
  /-- A value is of another type than its place demands. -/
  | wrongType (found : Found) (expected : String)
  /-- An integer is outside the range of its place. -/
  | wrongInteger (n : Int) (expected : String)
  | missingField (name : String)
  | duplicateField (name : String)
  /-- A name is none of the variants of an enumeration. -/
  | unknownVariant (name : String) (known : List String)
  /-- A list is too short for the record it stands for. -/
  | wrongLength (length : Nat) (record : String) (fields : Nat)
deriving DecidableEq, Repr

def Fault.message : Fault → String
  | endInValue => "EOF while parsing a value"
  | endInObject => "EOF while parsing an object"
  | endInList => "EOF while parsing a list"
  | endInText => "EOF while parsing a string"
  | expectedValue => "expected value"
  | expectedWord => "expected ident"
  | expectedColon => "expected " ++ ticked ":"
  | expectedListEnd => "expected " ++ ticked "," ++ " or " ++ ticked "]"
  | expectedObjectEnd => "expected " ++ ticked "," ++ " or " ++ ticked "\x7d"
  | keyNotText => "key must be a string"
  | trailingComma => "trailing comma"
  | trailingText => "trailing characters"
  | invalidNumber => "invalid number"
  | numberOutOfRange => "number out of range"
  | invalidEscape => "invalid escape"
  | controlCharacter =>
    "control character (\\u0000-\\u001F) found while parsing a string"
  | loneSurrogate => "lone leading surrogate in hex escape"
  | endOfEscape => "unexpected end of hex escape"
  | wrongType found expected => "invalid type: " ++ found.describe ++ ", expected " ++ expected
  | wrongInteger n expected =>
    "invalid value: integer " ++ ticked (toString n) ++ ", expected " ++ expected
  | missingField name => "missing field " ++ ticked name
  | duplicateField name => "duplicate field " ++ ticked name
  | unknownVariant name known =>
    "unknown variant " ++ ticked name ++ ", expected one of " ++
      ", ".intercalate (known.map ticked)
  | wrongLength length record fields =>
    "invalid length " ++ toString length ++ ", expected struct " ++ record ++ " with " ++
      toString fields ++ " elements"

end Compositor.Json
