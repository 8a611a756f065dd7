import Compositor.Json.Scan

/-!
# The grammar of JSON

Which texts are values, whatever they stand for, and which texts are spelled between quotes for a
name. Space may stand around every part. Between quotes any four hexadecimal digits make an escape;
only what is spelled for something has surrogates in pairs alone.
-/

namespace Compositor.Json

/-! ## Parts -/

/-- Nothing but space. -/
def IsGap (s : List Char) : Prop := ∀ c ∈ s, isSpace c = true

theorem isGap_nil : IsGap [] := nofun

/-- Digits, at least one. -/
def IsDigits (s : List Char) : Prop := s ≠ [] ∧ ∀ c ∈ s, isDigit c = true

/-- The digits before the point, which start with a zero only if there is no other. -/
def IsWhole (s : List Char) : Prop := s = ['0'] ∨ IsDigits s ∧ s.head? ≠ some '0'

def IsFraction (s : List Char) : Prop := s = [] ∨ ∃ digits, IsDigits digits ∧ s = '.' :: digits

def IsExponent (s : List Char) : Prop :=
  s = [] ∨ ∃ mark sign digits, (mark = 'e' ∨ mark = 'E') ∧
    (sign = [] ∨ sign = ['+'] ∨ sign = ['-']) ∧ IsDigits digits ∧ s = mark :: (sign ++ digits)

def IsNumber (s : List Char) : Prop :=
  ∃ sign whole fraction exponent, (sign = [] ∨ sign = ['-']) ∧ IsWhole whole ∧
    IsFraction fraction ∧ IsExponent exponent ∧ s = sign ++ (whole ++ (fraction ++ exponent))

theorem head_of_isWhole {s : List Char} (h : IsWhole s) : ∃ c t, s = c :: t ∧ isDigit c = true := by
  obtain rfl | ⟨⟨hne, hdigits⟩, -⟩ := h
  · exact ⟨'0', [], rfl, rfl⟩
  · obtain ⟨c, t, rfl⟩ := List.exists_cons_of_ne_nil hne
    exact ⟨c, t, rfl, hdigits c List.mem_cons_self⟩

theorem head_of_isNumber {s : List Char} (h : IsNumber s) :
    ∃ c t, s = c :: t ∧ (c = '-' ∨ isDigit c = true) := by
  obtain ⟨sign, whole, fraction, exponent, hsign, hwhole, -, -, rfl⟩ := h
  obtain rfl | rfl := hsign
  · obtain ⟨c, t, rfl, hc⟩ := head_of_isWhole hwhole
    exact ⟨c, _, rfl, .inr hc⟩
  · exact ⟨'-', _, rfl, .inl rfl⟩

/-- The number of four hexadecimal digits. -/
def hexUnit? : List Char → Option Nat
  | [a, b, c, d] => do
    return 16 * (16 * (16 * (← hexDigit? a) + (← hexDigit? b)) + (← hexDigit? c)) + (← hexDigit? d)
  | _ => none

theorem eq_of_hexUnit? {digits : List Char} {unit : Nat} (h : hexUnit? digits = some unit) :
    ∃ a b c d i j k l, digits = [a, b, c, d] ∧ hexDigit? a = some i ∧ hexDigit? b = some j ∧
      hexDigit? c = some k ∧ hexDigit? d = some l ∧
      unit = 16 * (16 * (16 * i + j) + k) + l := by
  unfold hexUnit? at h
  split at h
  · rename_i a b c d
    simp only [bind, pure, Option.bind_eq_some_iff] at h
    obtain ⟨i, ha, j, hb, k, hc, l, hd, hunit⟩ := h
    exact ⟨a, b, c, d, i, j, k, l, rfl, ha, hb, hc, hd, (Option.some.inj hunit).symm⟩
  · cases h

/-- What may stand between quotes. -/
inductive IsUnquoted : List Char → Prop where
  | nil : IsUnquoted []
  | plain {c : Char} {s : List Char} : c ≠ '"' → c ≠ '\\' → 0x20 ≤ c.toNat → IsUnquoted s →
    IsUnquoted (c :: s)
  | letter {c : Char} {s : List Char} : (unescapeLetter? c).isSome = true → IsUnquoted s →
    IsUnquoted ('\\' :: c :: s)
  | unit {digits s : List Char} : (hexUnit? digits).isSome = true → IsUnquoted s →
    IsUnquoted ('\\' :: 'u' :: (digits ++ s))

/-! ## Values -/

/-- The kinds of texts that values are made of. -/
inductive Phrase where
  | value
  /-- A value with space around it. -/
  | element
  | elements
  /-- A name and a value, with space around them. -/
  | member
  | members

/-- The texts of each kind. -/
inductive Derives : Phrase → List Char → Prop where
  | null : Derives .value "null".toList
  | true : Derives .value "true".toList
  | false : Derives .value "false".toList
  | number {s : List Char} : IsNumber s → Derives .value s
  | text {s : List Char} : IsUnquoted s → Derives .value ('"' :: (s ++ ['"']))
  | emptyList {gap : List Char} : IsGap gap → Derives .value ('[' :: (gap ++ [']']))
  | list {s : List Char} : Derives .elements s → Derives .value ('[' :: (s ++ [']']))
  | emptyObject {gap : List Char} : IsGap gap → Derives .value ('\x7b' :: (gap ++ ['\x7d']))
  | object {s : List Char} : Derives .members s → Derives .value ('\x7b' :: (s ++ ['\x7d']))
  | element {before s after : List Char} : IsGap before → Derives .value s → IsGap after →
    Derives .element (before ++ (s ++ after))
  | lastElement {s : List Char} : Derives .element s → Derives .elements s
  | elements {s rest : List Char} : Derives .element s → Derives .elements rest →
    Derives .elements (s ++ ',' :: rest)
  | member {before name between s : List Char} : IsGap before → IsUnquoted name →
    IsGap between → Derives .element s →
    Derives .member (before ++ '"' :: (name ++ '"' :: (between ++ ':' :: s)))
  | lastMember {s : List Char} : Derives .member s → Derives .members s
  | members {s rest : List Char} : Derives .member s → Derives .members rest →
    Derives .members (s ++ ',' :: rest)

/-- A well-formed value, whatever it stands for. -/
abbrev IsValue (s : List Char) : Prop := Derives .value s

/-! ## Names -/

/-- What may stand between quotes for a text: each character by itself, by its letter, by its code
or by a pair of codes. -/
inductive Spells : List Char → List Char → Prop where
  | nil : Spells [] []
  | plain {c : Char} {s cs : List Char} : c ≠ '"' → c ≠ '\\' → 0x20 ≤ c.toNat → Spells s cs →
    Spells (c :: s) (c :: cs)
  | letter {letter c : Char} {s cs : List Char} : unescapeLetter? letter = some c → Spells s cs →
    Spells ('\\' :: letter :: s) (c :: cs)
  | unit {digits s cs : List Char} {unit : Nat} : hexUnit? digits = some unit →
    ¬ (0xD800 ≤ unit ∧ unit ≤ 0xDFFF) → Spells s cs →
    Spells ('\\' :: 'u' :: (digits ++ s)) (Char.ofNat unit :: cs)
  | pair {first second s cs : List Char} {high low : Nat} : hexUnit? first = some high →
    hexUnit? second = some low → 0xD800 ≤ high ∧ high ≤ 0xDBFF → 0xDC00 ≤ low ∧ low ≤ 0xDFFF →
    Spells s cs →
    Spells ('\\' :: 'u' :: (first ++ '\\' :: 'u' :: (second ++ s))) (pairChar high low :: cs)

/-- A text with its quotes, spelled in some way. -/
def IsQuoted (name : String) (s : List Char) : Prop :=
  ∃ spelling, Spells spelling name.toList ∧ s = '"' :: (spelling ++ ['"'])

/-! ## Objects with given members -/

variable {ε : Type} (writes : ε → String → List Char → Prop)

/-- A member that stands for `e`, from what follows a brace or comma to the end of its value. What
its name and its value are is up to `writes`. -/
inductive IsMemberOf (e : ε) : List Char → Prop where
  | intro {before spelling between after value : List Char} {name : String} : IsGap before →
    Spells spelling name.toList → IsGap between → IsGap after → writes e name value →
    IsMemberOf e (before ++ '"' :: (spelling ++ '"' :: (between ++ ':' :: (after ++ value))))

/-- What follows a member: others that stand for `es`, and the end of the object. -/
inductive IsRestOf : List ε → List Char → Prop where
  | close {gap : List Char} : IsGap gap → IsRestOf [] (gap ++ ['\x7d'])
  | more {gap s rest : List Char} {e : ε} {es : List ε} : IsGap gap → IsMemberOf writes e s →
    IsRestOf es rest → IsRestOf (e :: es) (gap ++ ',' :: (s ++ rest))

/-- An object whose members stand for `es`, in this order. -/
inductive IsObjectOf : List ε → List Char → Prop where
  | empty {gap : List Char} : IsGap gap → IsObjectOf [] ('\x7b' :: (gap ++ ['\x7d']))
  | members {s rest : List Char} {e : ε} {es : List ε} : IsMemberOf writes e s →
    IsRestOf writes es rest → IsObjectOf (e :: es) ('\x7b' :: (s ++ rest))

end Compositor.Json
