import Compositor.Text.Hidden

/-!
# Quoted text in messages

A text shown in a message stands between double quotes. What would be unreadable there is written
with a backslash: the quote and the backslash themselves, a few controls by a letter, and every
other hidden character by its code point in hexadecimal.
-/

namespace Compositor.Text

/-- The digits of a number in hexadecimal, lower case. -/
def hexDigits (n : Nat) : List Char := Nat.toDigits 16 n

/-- One character as it stands inside the quotes. -/
def shown (c : Char) : List Char :=
  if c = '"' ∨ c = '\\' then ['\\', c]
  else if c = '\t' then ['\\', 't']
  else if c = '\n' then ['\\', 'n']
  else if c = '\r' then ['\\', 'r']
  else if c = '\x00' then ['\\', '0']
  else if isHidden c then "\\u\x7b".toList ++ hexDigits c.toNat ++ ['\x7d']
  else [c]

def quoted (s : String) : String :=
  String.ofList ('"' :: s.toList.flatMap shown ++ ['"'])

end Compositor.Text
