import Compositor.Proofs.Json.Grammar
import Mathlib.Tactic.SplitIfs

/-!
# Quoted texts read back

Whatever characters a text has, however they are spelled, and whatever follows its closing quote,
scanning what stands between the quotes gives the text. What is written for a text is one of its
spellings: each character is written in one of three ways.
-/

namespace Compositor.Json

variable {s cs digits : List Char} {unit : Nat}

/-! ## Spellings -/

/-- The scan of an escape before its last digit. -/
theorem scanText_hex (h : hexUnit? digits = some unit) :
    ∃ value c n, hexDigit? c = some n ∧ unit = 16 * value + n ∧
      ∀ high s, scanText (.hex 4 0 high) (digits ++ s) = scanText (.hex 1 value high) (c :: s) := by
  obtain ⟨a, b, c, d, i, j, k, l, rfl, ha, hb, hc, hd, rfl⟩ := eq_of_hexUnit? h
  refine ⟨16 * (16 * i + j) + k, d, l, hd, rfl, fun high s => ?_⟩
  simp [scanText, ha, hb, hc]

/-- An escape that is no surrogate stands for the character of its number. -/
theorem scanText_unit (h : hexUnit? digits = some unit)
    (hunit : ¬ (0xD800 ≤ unit ∧ unit ≤ 0xDFFF)) (s : List Char) :
    scanText (.hex 4 0 none) (digits ++ s) =
      consScanned (Char.ofNat unit) (scanText .plain s) := by
  obtain ⟨value, c, n, hc, rfl, hscan⟩ := scanText_hex h
  rw [hscan, scanText, hc]
  dsimp only
  rw [if_neg (Nat.lt_irrefl 1), if_neg (by omega), if_neg (by omega)]

/-- The first half of a pair of surrogates asks for the second. -/
theorem scanText_high (h : hexUnit? digits = some unit) (hunit : 0xD800 ≤ unit ∧ unit ≤ 0xDBFF)
    (s : List Char) :
    scanText (.hex 4 0 none) (digits ++ s) = scanText (.pairBackslash unit) s := by
  obtain ⟨value, c, n, hc, rfl, hscan⟩ := scanText_hex h
  rw [hscan, scanText, hc]
  dsimp only
  rw [if_neg (Nat.lt_irrefl 1), if_neg (by omega), if_pos hunit]

theorem scanText_low {high : Nat} (h : hexUnit? digits = some unit)
    (hunit : 0xDC00 ≤ unit ∧ unit ≤ 0xDFFF) (s : List Char) :
    scanText (.hex 4 0 (some high)) (digits ++ s) =
      consScanned (pairChar high unit) (scanText .plain s) := by
  obtain ⟨value, c, n, hc, rfl, hscan⟩ := scanText_hex h
  rw [hscan, scanText, hc]
  dsimp only
  rw [if_neg (Nat.lt_irrefl 1), if_pos hunit]

/-- Every spelling is scanned as what it is spelled for. -/
theorem scanText_of_spells (h : Spells s cs) (rest : List Char) :
    scanText .plain (s ++ '"' :: rest) = .ok (cs, rest) := by
  induction h with
  | nil => rfl
  | @plain c s cs hquote hbackslash hcontrol _ ih =>
    rw [List.cons_append, scanText, if_neg hquote, if_neg hbackslash,
      if_neg (Nat.not_lt.mpr hcontrol), ih]
    rfl
  | @letter letter c s cs hletter _ ih =>
    have hu : letter ≠ 'u' := by
      rintro rfl
      cases hletter
    have hscan : scanText .plain ('\\' :: letter :: (s ++ '"' :: rest)) =
        consScanned c (scanText .plain (s ++ '"' :: rest)) := by
      simp [scanText, hu, hletter]
    rw [List.cons_append, List.cons_append, hscan, ih]
    rfl
  | @unit digits s cs unit hdigits hunit _ ih =>
    have hescape : scanText .plain ('\\' :: 'u' :: (digits ++ (s ++ '"' :: rest))) =
        scanText (.hex 4 0 none) (digits ++ (s ++ '"' :: rest)) := by
      simp [scanText]
    rw [List.cons_append, List.cons_append, List.append_assoc, hescape,
      scanText_unit hdigits hunit, ih]
    rfl
  | @pair first second s cs high low hfirst hsecond hhigh hlow _ ih =>
    have hescape : scanText .plain ('\\' :: 'u' ::
        (first ++ '\\' :: 'u' :: (second ++ (s ++ '"' :: rest)))) =
        scanText (.hex 4 0 none) (first ++ '\\' :: 'u' :: (second ++ (s ++ '"' :: rest))) := by
      simp [scanText]
    have hpair : scanText (.pairBackslash high) ('\\' :: 'u' :: (second ++ (s ++ '"' :: rest))) =
        scanText (.hex 4 0 (some high)) (second ++ (s ++ '"' :: rest)) := by
      simp [scanText]
    simp only [List.cons_append, List.append_assoc]
    rw [hescape, scanText_high hfirst hhigh, hpair, scanText_low hsecond hlow, ih]
    rfl

/-- A text is scanned from each of its spellings. -/
theorem scanString_of_spells {name : String} (h : Spells s name.toList) (rest : List Char) :
    scanString (s ++ '"' :: rest) = .ok (name, rest) := by
  rw [scanString, scanText_of_spells h]
  exact congrArg (fun t => Except.ok (t, rest)) String.ofList_toList

/-! ## What is written for a text -/

/-- A letter after a backslash stands for the character that it was chosen for. -/
theorem unescapeLetter?_of_escapeLetter? {c letter : Char} (h : escapeLetter? c = some letter) :
    unescapeLetter? letter = some c := by
  unfold escapeLetter? at h
  split_ifs at h
  all_goals
    subst c
    obtain rfl := Option.some.inj h
    decide

/-- What has no letter of its own is neither a quote nor a backslash. -/
theorem ne_of_escapeLetter?_eq_none {c : Char} (h : escapeLetter? c = none) :
    c ≠ '"' ∧ c ≠ '\\' := by
  constructor <;> rintro rfl <;> cases h

theorem hexDigit?_digitChar {n : Nat} (h : n < 16) : hexDigit? (Nat.digitChar n) = some n := by
  have hall : ∀ n : Fin 16, hexDigit? (Nat.digitChar n) = some n.val := by decide
  exact hall ⟨n, h⟩

/-- The code that a control character is written by. -/
theorem hexUnit?_controlDigits {c : Char} (hc : c.toNat < 0x20) :
    hexUnit? ('0' :: '0' :: controlDigits c) = some c.toNat := by
  have hzero : hexDigit? '0' = some 0 := by decide
  have hhigh := hexDigit?_digitChar (n := c.toNat / 16) (by omega)
  have hlow := hexDigit?_digitChar (n := c.toNat % 16) (by omega)
  simp only [controlDigits, hexUnit?, hzero, hhigh, hlow, Option.bind_eq_bind, Option.bind_some,
    Option.pure_def, Option.some.injEq]
  omega

/-- What is written for a text spells it. -/
theorem spells_escape (cs : List Char) : Spells (cs.flatMap escape) cs := by
  induction cs with
  | nil => exact .nil
  | cons c cs ih =>
    rw [List.flatMap_cons, escape]
    split
    · rename_i letter hletter
      exact .letter (unescapeLetter?_of_escapeLetter? hletter) ih
    · rename_i hnone
      obtain ⟨hquote, hbackslash⟩ := ne_of_escapeLetter?_eq_none hnone
      split
      · rename_i hcontrol
        have hunit := Spells.unit (hexUnit?_controlDigits hcontrol) (by omega) ih
        rwa [Char.ofNat_toNat] at hunit
      · rename_i hprintable
        exact .plain hquote hbackslash (Nat.not_lt.mp hprintable) ih

theorem isQuoted_quote (s : String) : IsQuoted s (quote s) :=
  ⟨_, spells_escape s.toList, rfl⟩

end Compositor.Json
