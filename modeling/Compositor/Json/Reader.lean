import Compositor.Json.Skip

/-!
# Reading values of a known form

A reader takes a text up to the end of one value and gives what the value stands for. The first
fault met from left to right is the one reported; a record reports missing fields when its object
ends.
-/

namespace Compositor.Json

open Numeric

/-- Reads one value off a text. -/
abbrev Reader (α : Type) := List Char → Except Fault (α × List Char)

/-- The fault of a value that is not of the expected type: the value is read as far as it takes to
describe it, so that a fault inside it comes first. -/
def mismatch (expected : String) (s : List Char) : Fault :=
  let wrong {α : Type} (found : α → Found) : Except Fault α → Fault
    | .ok v => .wrongType (found v) expected
    | .error fault => fault
  match s with
  | [] => .endInValue
  | 'n' :: s => wrong (fun _ => .null) (scanWord "ull".toList s)
  | 't' :: s => wrong (fun _ => .bool true) (scanWord "rue".toList s)
  | 'f' :: s => wrong (fun _ => .bool false) (scanWord "alse".toList s)
  | '"' :: s => wrong (fun r => .text r.1) (scanString s)
  | '[' :: _ => .wrongType .list expected
  | '\x7b' :: _ => .wrongType .object expected
  | c :: _ =>
    if c == '-' || isDigit c then wrong (fun r => r.1.found) (scanNumber s) else .expectedValue

/-- Reads a number and converts it. -/
def readNumber {α : Type} (expected : String) (convert : Number → Except Fault α) : Reader α :=
  fun s =>
    let s := skipSpace s
    match s with
    | [] => .error .endInValue
    | c :: _ =>
      if c == '-' || isDigit c then
        (scanNumber s).bind fun r => (convert r.1).map (·, r.2)
      else .error (mismatch expected s)

/-- Reads a natural number below `2 ^ width`. -/
def readNatural (width : Nat) : Reader Nat :=
  let expected := "u" ++ toString width
  readNumber expected fun
    | .natural n =>
      if n < 2 ^ width then .ok n else .error (.wrongInteger n expected)
    | .negative n => .error (.wrongInteger (-n) expected)
    | .float x => .error (.wrongType (.float x) expected)

/-- Reads a number of single precision. -/
def readSingle : Reader Single :=
  readNumber "f32" fun
    | .natural n => .ok (Binary.ofNat n)
    | .negative n => .ok (Binary.ofInt (-n))
    | .float x => .ok (x.convert Format.single)

def readBool : Reader Bool := fun s =>
  match skipSpace s with
  | [] => .error .endInValue
  | 't' :: s => (scanWord "rue".toList s).map (true, ·)
  | 'f' :: s => (scanWord "alse".toList s).map (false, ·)
  | s => .error (mismatch "a boolean" s)

def readString : Reader String := fun s =>
  match skipSpace s with
  | [] => .error .endInValue
  | '"' :: s => scanString s
  | s => .error (mismatch "a string" s)

/-! ## Enumerations -/

/-- Names of variants with what they stand for. -/
abbrev Variants (α : Type) := List (String × α)

def Variants.find {α : Type} (variants : Variants α) (name : String) : Except Fault α :=
  match variants.find? (·.1 == name) with
  | some variant => .ok variant.2
  | none => .error (.unknownVariant name (variants.map (·.1)))

/-- Takes a colon off a text. -/
def scanColon (s : List Char) : Except Fault (List Char) :=
  match skipSpace s with
  | [] => .error .endInObject
  | ':' :: s => .ok s
  | _ => .error .expectedColon

/-- Takes a null off a text. -/
def scanNull (s : List Char) : Except Fault (List Char) :=
  match skipSpace s with
  | [] => .error .endInValue
  | 'n' :: s => scanWord "ull".toList s
  | s => .error (mismatch "unit" s)

/-- Reads a variant: its name, or an object whose only member has that name and is null. -/
def readVariant {α : Type} (variants : Variants α) : Reader α := fun s =>
  match skipSpace s with
  | [] => .error .endInValue
  | '"' :: s => (scanString s).bind fun r => (variants.find r.1).map (·, r.2)
  | '\x7b' :: s =>
    match skipSpace s with
    | [] => .error .endInObject
    | '"' :: s =>
      (scanString s).bind fun r => do
        let variant ← variants.find r.1
        let s ← scanNull (← scanColon r.2)
        match skipSpace s with
        | [] => .error .endInObject
        | '\x7d' :: s => return (variant, s)
        | _ => .error .expectedValue
    | '\x7d' :: _ => .error .expectedValue
    | _ => .error .keyNotText
  | _ => .error .expectedValue

/-! ## Records -/

/-- A field of a record that is read into a draft of type `δ`. -/
structure Field (δ : Type) where
  /-- The name of the member that gives it. -/
  name : String
  /-- Whether the draft has it already. -/
  given : δ → Bool
  /-- Reads its value into the draft. -/
  read : δ → Reader δ

/-- A field that is kept as an option in the draft. -/
def Field.of {δ α : Type} (name : String) (get : δ → Option α) (set : δ → α → δ)
    (read : Reader α) : Field δ where
  name := name
  given draft := (get draft).isSome
  read draft s := (read s).map fun r => (set draft r.1, r.2)

/-- A record, read from an object with its fields as members in any order, or from a list with its
fields in the order declared here. -/
structure Form (δ α : Type) where
  name : String
  fields : List (Field δ)
  /-- The draft before any field is read. -/
  blank : δ
  /-- Whether a list may end before the last field. -/
  mayEndEarly : Bool
  /-- The record of a draft, or the fault of a field that is missing. -/
  finish : δ → Except Fault α

/-- What follows an element of a list, or the start of the list. -/
inductive ListStep where
  /-- The list ends and the text after it. -/
  | done (rest : List Char)
  /-- Another element and the text from there. -/
  | more (rest : List Char)

/-- Goes to the next element of a list, or over its end. -/
def nextElement (isFirst : Bool) (s : List Char) : Except Fault ListStep :=
  match skipSpace s with
  | [] => .error .endInList
  | ']' :: s => .ok (.done s)
  | c :: s =>
    if isFirst then .ok (.more (c :: s))
    else if c = ',' then
      match skipSpace s with
      | [] => .error .endInValue
      | ']' :: _ => .error .trailingComma
      | s => .ok (.more s)
    else .error .expectedListEnd

/-- Takes the end of a list off a text. -/
def scanListEnd (s : List Char) : Except Fault (List Char) :=
  match skipSpace s with
  | [] => .error .endInList
  | ']' :: s => .ok s
  | ',' :: s =>
    match skipSpace s with
    | ']' :: _ => .error .trailingComma
    | _ => .error .trailingText
  | _ => .error .trailingText

/-- Goes to the next member of an object, at the start of its name without the quote, or over the
end of the object. -/
def nextMember (isFirst : Bool) (s : List Char) : Except Fault ListStep :=
  match skipSpace s with
  | [] => .error .endInObject
  | '\x7d' :: s => .ok (.done s)
  | c :: s =>
    if isFirst then if c = '"' then .ok (.more s) else .error .keyNotText
    else if c = ',' then
      match skipSpace s with
      | [] => .error .endInValue
      | '"' :: s => .ok (.more s)
      | '\x7d' :: _ => .error .trailingComma
      | _ => .error .keyNotText
    else .error .expectedObjectEnd

namespace Form

variable {δ α : Type} (form : Form δ α)

/-- Reads the elements of a list into the fields not read so far; `count` were read. -/
def readElements (count : Nat) (draft : δ) :
    List (Field δ) → List Char → Except Fault (δ × List Char)
  | [], s => (scanListEnd s).map (draft, ·)
  | field :: fields, s => do
    match ← nextElement (count = 0) s with
    | .done rest =>
      if form.mayEndEarly then return (draft, rest)
      else throw (.wrongLength count form.name form.fields.length)
    | .more s =>
      let (draft, s) ← field.read draft s
      readElements (count + 1) draft fields s

/-- Reads a member whose name was read: the value of a field, or a value that is skipped. -/
def readMember (draft : δ) (name : String) (s : List Char) :
    Except Fault (δ × List Char) :=
  match form.fields.find? (·.name == name) with
  | none => do
    let s ← skipValue (← scanColon s)
    return (draft, s)
  | some field =>
    if field.given draft then .error (.duplicateField name)
    else do field.read draft (← scanColon s)

/-- Reads at most `limit` members of an object and its end. -/
def readMembers (isFirst : Bool) (draft : δ) : Nat → List Char → Except Fault (δ × List Char)
  | 0, _ => .error .endInObject
  | limit + 1, s => do
    match ← nextMember isFirst s with
    | .done rest => return (draft, rest)
    | .more s =>
      (scanString s).bind fun r => do
        let (draft, s) ← form.readMember draft r.1 r.2
        readMembers false draft limit s

/-- Reads a record. A member takes at least one character, so the length of the text bounds how many
there are. -/
def read : Reader α := fun s =>
  match skipSpace s with
  | [] => .error .endInValue
  | '[' :: s => do
    let (draft, s) ← readElements form 0 form.blank form.fields s
    return (← form.finish draft, s)
  | '\x7b' :: s => do
    let (draft, rest) ← readMembers form true form.blank (s.length + 1) s
    return (← form.finish draft, rest)
  | s => .error (mismatch ("struct " ++ form.name) s)

end Form

/-- The value of a field that has no default. -/
def required {α : Type} (name : String) : Option α → Except Fault α
  | some v => .ok v
  | none => .error (.missingField name)

/-- Reads a text that holds one value and nothing else but space. -/
def readAll {α : Type} (read : Reader α) (text : String) : Except Fault α := do
  let (v, rest) ← read text.toList
  if (skipSpace rest).isEmpty then return v else throw .trailingText

end Compositor.Json
