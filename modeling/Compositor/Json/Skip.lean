import Compositor.Json.Scan

/-!
# Skipping a value

A member that nobody asked for is skipped. The value is read character by character with a stack
of the lists and objects that are open, so its depth does not matter. Its form is checked and its
content is not: numbers may be out of range and surrogates may stand alone.
-/

namespace Compositor.Json

/-- A list or an object that is open. -/
inductive Frame where
  | list
  | object
deriving DecidableEq, Repr

namespace Frame

/-- The character that closes the frame. -/
def closer : Frame → Char
  | list => ']'
  | object => '\x7d'

/-- The fault of a text that ends in the frame. -/
def endFault : Frame → Fault
  | list => .endInList
  | object => .endInObject

/-- The fault of a text where the frame neither goes on nor ends. -/
def moreFault : Frame → Fault
  | list => .expectedListEnd
  | object => .expectedObjectEnd

end Frame

/-- Where a scan stands inside a value that is skipped. -/
inductive SkipSpot where
  /-- Before a value. -/
  | value
  /-- Inside a fixed word of which some characters are to come. -/
  | word (left : List Char)
  /-- After the minus sign of a number. -/
  | sign
  /-- After a leading zero. -/
  | zero
  /-- Among the digits before the point. -/
  | whole
  /-- After the point. -/
  | point
  /-- Among the digits after the point. -/
  | places
  /-- After the mark of the exponent. -/
  | mark
  /-- After the sign of the exponent. -/
  | markSign
  /-- Among the digits of the exponent. -/
  | exponent
  /-- Between quotes; `key` tells a member name from a value. -/
  | text (key : Bool)
  /-- After a backslash between quotes. -/
  | escape (key : Bool)
  /-- Among the hexadecimal digits of an escape, `missing` of which are to come. -/
  | hex (key : Bool) (missing : Nat)
  /-- After the start of the innermost frame. -/
  | opened
  /-- Before a member name. -/
  | member
  /-- After a member name. -/
  | colon
  /-- After a value. -/
  | after
deriving DecidableEq, Repr

/-- What a character does to a scan. -/
inductive SkipMove where
  /-- The scan goes on. -/
  | go (frames : List Frame) (spot : SkipSpot)
  /-- The value ends with the character. -/
  | last
  /-- The value ended before the character. -/
  | past
  | fail (fault : Fault)

namespace SkipSpot

/-- The scan after a value, which is over when no frame is open. -/
def ended : List Frame → SkipMove
  | [] => .last
  | frames => .go frames .after

/-- The scan after the closing quote of a text. -/
def unquoted (frames : List Frame) (key : Bool) : SkipMove :=
  if key then .go frames .colon else ended frames

/-- What the first character of a value does. -/
def start (frames : List Frame) (c : Char) : SkipMove :=
  if isSpace c then .go frames .value
  else if c = 'n' then .go frames (.word "ull".toList)
  else if c = 't' then .go frames (.word "rue".toList)
  else if c = 'f' then .go frames (.word "alse".toList)
  else if c = '-' then .go frames .sign
  else if c = '0' then .go frames .zero
  else if isDigit c then .go frames .whole
  else if c = '"' then .go frames (.text false)
  else if c = '[' then .go (.list :: frames) .opened
  else if c = '\x7b' then .go (.object :: frames) .opened
  else .fail .expectedValue

/-- What a character does after a value. -/
def follow (frames : List Frame) (c : Char) : SkipMove :=
  match frames with
  | [] => .past
  | frame :: outer =>
    if isSpace c then .go frames .after
    else if c = ',' then
      .go frames (match frame with
        | .list => .value
        | .object => .member)
    else if c = frame.closer then ended outer
    else .fail frame.moreFault

/-- What a character does after the start of a frame. -/
def first (frames : List Frame) (c : Char) : SkipMove :=
  match frames with
  | [] => .past
  | frame :: outer =>
    if isSpace c then .go frames .opened
    else if c = frame.closer then ended outer
    else
      match frame with
      | .list => start frames c
      | .object => if c = '"' then .go frames (.text true) else .fail .keyNotText

/-- What a character does after digits that may be followed by an exponent. -/
def scale (frames : List Frame) (c : Char) : SkipMove :=
  if c = 'e' ∨ c = 'E' then .go frames .mark else follow frames c

/-- What a character does to a scan; `rest` follows it. -/
def step (frames : List Frame) (c : Char) (rest : List Char) : SkipSpot → SkipMove
  | value => start frames c
  | word [] => follow frames c
  | word [w] => if c = w then ended frames else .fail .expectedWord
  | word (w :: left) => if c = w then .go frames (.word left) else .fail .expectedWord
  | sign =>
    if c = '0' then .go frames .zero
    else if isDigit c then .go frames .whole
    else .fail .invalidNumber
  | zero =>
    if isDigit c then .fail .invalidNumber
    else if c = '.' then .go frames .point
    else scale frames c
  | whole =>
    if isDigit c then .go frames .whole
    else if c = '.' then .go frames .point
    else scale frames c
  | point => if isDigit c then .go frames .places else .fail .invalidNumber
  | places => if isDigit c then .go frames .places else scale frames c
  | mark =>
    if c = '+' ∨ c = '-' then .go frames .markSign
    else if isDigit c then .go frames .exponent
    else .fail .invalidNumber
  | markSign => if isDigit c then .go frames .exponent else .fail .invalidNumber
  | exponent => if isDigit c then .go frames .exponent else follow frames c
  | text key =>
    if c = '"' then unquoted frames key
    else if c = '\\' then .go frames (.escape key)
    else if c.toNat < 0x20 then .fail .controlCharacter
    else .go frames (.text key)
  | escape key =>
    if c = 'u' then .go frames (.hex key 4)
    else if (unescapeLetter? c).isSome then .go frames (.text key)
    else .fail .invalidEscape
  | hex key missing =>
    if (hexDigit? c).isSome then
      .go frames (if 1 < missing then .hex key (missing - 1) else .text key)
    else .fail (hexFault missing (c :: rest))
  | opened => first frames c
  | member =>
    if isSpace c then .go frames .member
    else if c = '"' then .go frames (.text true)
    else .fail .keyNotText
  | colon =>
    if isSpace c then .go frames .colon
    else if c = ':' then .go frames .value
    else .fail .expectedColon
  | after => follow frames c

/-- What the end of the text does to a scan. -/
def atEnd (frames : List Frame) (spot : SkipSpot) : Except Fault (List Char) :=
  let closed : Except Fault (List Char) :=
    match frames with
    | [] => .ok []
    | frame :: _ => .error frame.endFault
  match spot with
  | value => .error .endInValue
  | word [] => closed
  | word _ => .error .endInValue
  | sign | point | mark | markSign => .error .invalidNumber
  | zero | whole | places | exponent | after | opened => closed
  | text _ | escape _ | hex _ _ => .error .endInText
  | member | colon => .error .endInObject

end SkipSpot

/-- Skips the rest of a value and gives what follows it. -/
def skipFrom (frames : List Frame) (spot : SkipSpot) : List Char → Except Fault (List Char)
  | [] => spot.atEnd frames
  | c :: rest =>
    match spot.step frames c rest with
    | .go frames spot => skipFrom frames spot rest
    | .last => .ok rest
    | .past => .ok (c :: rest)
    | .fail fault => .error fault

def skipValue (s : List Char) : Except Fault (List Char) := skipFrom [] .value s

end Compositor.Json
