import Compositor.Proofs.Json.Grammar
import Compositor.Proofs.Json.Numbers
import Compositor.Proofs.Json.Quoting
import Mathlib.Tactic.SplitIfs

/-!
# Values of a known form

A reader takes a text for a value if it gives the value wherever the text stands before something
that belongs to no number. The readers of texts, natural numbers and variants take what is spelled
for these values, and every number is read unless it is too large.
-/

namespace Compositor.Json

/-- The reader takes the text for the value, whatever comes after it, unless it belongs to a
number. -/
def Takes {α : Type} (read : Reader α) (text : List Char) (v : α) : Prop :=
  ∀ rest, EndsNumber rest → read (text ++ rest) = .ok (v, rest)

/-- Space before a value does not matter to the reader. -/
def PassesSpace {α : Type} (read : Reader α) : Prop :=
  ∀ gap s, IsGap gap → read (gap ++ s) = read s

variable {α β : Type} {s rest gap text : List Char}

theorem skipSpace_cons {c : Char} (h : isSpace c = false) (s : List Char) :
    skipSpace (c :: s) = c :: s :=
  List.dropWhile_cons_of_neg (by rw [h]; exact Bool.false_ne_true)

theorem skipSpace_gap (hgap : IsGap gap) (s : List Char) : skipSpace (gap ++ s) = skipSpace s :=
  List.dropWhile_append_of_pos hgap

/-! ## Values -/

theorem passesSpace_readNumber {expected : String} {convert : Number → Except Fault α} :
    PassesSpace (readNumber expected convert) := by
  intro gap s hgap
  simp only [readNumber, skipSpace_gap hgap]

theorem passesSpace_readNatural (width : Nat) : PassesSpace (readNatural width) := by
  rw [readNatural]
  exact passesSpace_readNumber

theorem passesSpace_readSingle : PassesSpace readSingle := by
  rw [readSingle]
  exact passesSpace_readNumber

theorem passesSpace_readString : PassesSpace readString := by
  intro gap s hgap
  simp only [readString, skipSpace_gap hgap]

theorem passesSpace_readVariant {variants : Variants α} : PassesSpace (readVariant variants) := by
  intro gap s hgap
  simp only [readVariant, skipSpace_gap hgap]

theorem takes_readString {name : String} (h : IsQuoted name s) : Takes readString s name := by
  intro rest _
  obtain ⟨spelling, hspelling, rfl⟩ := h
  rw [List.cons_append, List.append_assoc, readString, skipSpace_cons (by decide)]
  exact scanString_of_spells hspelling rest

/-- The name of a variant is taken for the variant. -/
theorem takes_readVariant {variants : Variants α} {name : String} {v : α}
    (hv : variants.find name = .ok v) (h : IsQuoted name s) : Takes (readVariant variants) s v := by
  intro rest _
  obtain ⟨spelling, hspelling, rfl⟩ := h
  rw [List.cons_append, List.append_assoc, readVariant, skipSpace_cons (by decide)]
  show (scanString (spelling ++ '"' :: rest)).bind _ = _
  rw [scanString_of_spells hspelling]
  show (variants.find name).map (·, rest) = _
  rw [hv]
  rfl

/-- What is read as a number and nothing else is also read where something else follows. -/
theorem takes_of_readNumber {expected : String} {convert : Number → Except Fault α} {v : α}
    (hs : readNumber expected convert s = .ok (v, [])) :
    Takes (readNumber expected convert) s v := by
  intro rest h
  unfold readNumber at hs ⊢
  dsimp only at hs ⊢
  cases hspace : skipSpace s with
  | nil =>
    rw [hspace] at hs
    cases hs
  | cons c t =>
    have happend : skipSpace (s ++ rest) = c :: t ++ rest := by
      rw [skipSpace, List.dropWhile_append, ← skipSpace, hspace]
      rfl
    rw [hspace] at hs
    rw [happend]
    simp only [List.cons_append] at hs ⊢
    split at hs
    · rename_i hfirst
      rw [if_pos hfirst]
      rcases hscan : scanNumber (c :: t) with fault | ⟨n, r⟩
      · rw [hscan] at hs
        cases hs
      · rw [hscan] at hs
        rw [← List.cons_append, scanNumber_append h hscan]
        change (convert n).map (·, r) = _ at hs
        show (convert n).map (·, r ++ rest) = _
        cases hconvert : convert n with
        | error fault =>
          rw [hconvert] at hs
          cases hs
        | ok w =>
          rw [hconvert] at hs
          cases hs
          rfl
    · cases hs

/-- A numeral is taken for its number where the number is in range. -/
theorem takes_readNatural {width n : Nat} (hw : width ≤ 64) (hn : n < 2 ^ width) :
    Takes (readNatural width) (toString n).toList n := by
  have hsize : n < UInt64.size := Nat.lt_of_lt_of_le hn (Nat.pow_le_pow_right (by omega) hw)
  have htext : (toString n).toList = Nat.toDigits 10 n := by
    rw [Nat.toString_eq_ofList_toDigits, String.toList_ofList]
  rw [htext, readNatural]
  refine takes_of_readNumber ?_
  have hscan := scanNumber_toDigits hsize
  cases hd : Nat.toDigits 10 n with
  | nil => exact absurd hd Nat.toDigits_ne_nil
  | cons first more =>
    have hfirst : isDigit first = true :=
      isDigit_of_mem_toDigits (n := n) (by rw [hd]; exact List.mem_cons_self)
    rw [hd] at hscan
    rw [readNumber, skipSpace_cons (isSpace_of_isDigit hfirst)]
    dsimp only
    rw [if_pos (by rw [hfirst, Bool.or_true]), hscan]
    show Except.map _ (if n < 2 ^ width then _ else _) = _
    rw [if_pos hn]
    rfl

/-- A reader that converts what another one takes. -/
theorem Takes.map {read : Reader α} {v : α} (h : Takes read text v) (f : α → β) :
    Takes (fun s => (read s).map fun r => (f r.1, r.2)) text (f v) := by
  intro rest hrest
  dsimp only
  rw [h rest hrest]
  rfl

theorem PassesSpace.map {read : Reader α} (h : PassesSpace read) (f : α → β) :
    PassesSpace fun s => (read s).map fun r => (f r.1, r.2) := by
  intro gap s hgap
  dsimp only
  rw [h gap s hgap]

/-! ## Every number -/

/-- The text is scanned to its end, or its number is too large. -/
def Scanned (scan : Scan Number) : Prop :=
  (∃ n, scan = .ok (n, [])) ∨ scan = .error .numberOutOfRange

theorem scanned_scaled (negative : Bool) (significand : Nat) (exponent : Int) :
    Scanned ((scaled significand exponent).map fun x => (.float (signed negative x), [])) := by
  have hscaled : (∃ x, scaled significand exponent = .ok x) ∨
      scaled significand exponent = .error .numberOutOfRange := by
    unfold scaled
    dsimp only
    split_ifs <;> simp
  obtain ⟨x, hx⟩ | hx := hscaled
  · exact .inl ⟨_, by rw [hx]; rfl⟩
  · exact .inr (by rw [hx]; rfl)

theorem scanned_scanExponent {sign digits : List Char}
    (hsign : sign = [] ∨ sign = ['+'] ∨ sign = ['-']) (hdigits : IsDigits digits)
    (negative : Bool) (significand : Nat) (exponent : Int) :
    Scanned (scanExponent negative significand exponent (sign ++ digits)) := by
  obtain ⟨hne, hall⟩ := hdigits
  obtain ⟨c, t, rfl⟩ := List.exists_cons_of_ne_nil hne
  have hc : isDigit c = true := hall c List.mem_cons_self
  have hmark : (some c == some '-') = false ∧ (some c == some '+') = false := by
    constructor <;> rw [beq_eq_false_iff_ne] <;> rintro ⟨rfl⟩ <;> cases hc
  have hdrop : (c :: t).dropWhile isDigit = [] := List.dropWhile_eq_nil_iff.mpr hall
  -- whatever the sign, the digits are taken to the end of the text
  have hscan (down : Bool) : Scanned
      (if (Text.natural? ((c :: t).takeWhile isDigit)).getD 0 < 2 ^ (31 : Nat) then
        (scaled significand
          (if down then exponent - (Text.natural? ((c :: t).takeWhile isDigit)).getD 0
            else exponent + (Text.natural? ((c :: t).takeWhile isDigit)).getD 0)).map
          fun x => (.float (signed negative x), (c :: t).dropWhile isDigit)
      else if significand ≠ 0 ∧ !down then .error .numberOutOfRange
      else .ok (.float (signed negative 0), (c :: t).dropWhile isDigit)) := by
    rw [hdrop]
    split
    · exact scanned_scaled negative significand _
    · split
      · exact .inr rfl
      · exact .inl ⟨_, rfl⟩
  obtain rfl | rfl | rfl := hsign
  · have h := hscan false
    simp only [scanExponent, List.nil_append, List.head?_cons, hmark, Bool.or_false,
      Bool.false_eq_true, if_false, hc, if_true]
    exact h
  · show Scanned (if isDigit c then _ else _)
    rw [if_pos hc]
    exact hscan false
  · show Scanned (if isDigit c then _ else _)
    rw [if_pos hc]
    exact hscan true

theorem scanned_scanScale (hs : IsExponent s) (negative : Bool) (significand : Nat)
    (exponent : Int) : Scanned (scanScale negative significand exponent s) := by
  obtain rfl | ⟨mark, sign, digits, hmark, hsign, hdigits, rfl⟩ := hs
  · exact scanned_scaled negative significand exponent
  · obtain rfl | rfl := hmark <;> exact scanned_scanExponent hsign hdigits _ _ _

/-- What follows the digits before the point does not go on with them. -/
theorem head_of_isFraction {fraction exponent : List Char} (hfraction : IsFraction fraction)
    (hexponent : IsExponent exponent) :
    ∀ c ∈ (fraction ++ exponent).head?, isDigit c = false := by
  intro c hc
  obtain rfl | ⟨digits, -, rfl⟩ := hfraction
  · obtain rfl | ⟨mark, sign, digits, hmark, -, -, rfl⟩ := hexponent
    · cases hc
    · cases hc
      obtain rfl | rfl := hmark <;> rfl
  · cases hc
    rfl

theorem span_isDigit (hs : ∀ c ∈ s, isDigit c = true)
    (hrest : ∀ c ∈ rest.head?, isDigit c = false) :
    (s ++ rest).takeWhile isDigit = s ∧ (s ++ rest).dropWhile isDigit = rest := by
  rw [List.takeWhile_append_of_pos hs, List.dropWhile_append_of_pos hs]
  cases rest with
  | nil => simp
  | cons c rest => simp [hrest c rfl]

theorem scanned_scanUnsigned {whole fraction exponent : List Char} (hwhole : IsWhole whole)
    (hfraction : IsFraction fraction) (hexponent : IsExponent exponent) (negative : Bool) :
    Scanned (scanUnsigned negative (whole ++ (fraction ++ exponent))) := by
  obtain ⟨first, more, rfl, hall, hzero⟩ : ∃ first more, whole = first :: more ∧
      (∀ c ∈ first :: more, isDigit c = true) ∧ (first = '0' → more = []) := by
    obtain rfl | ⟨⟨hne, hall⟩, hhead⟩ := hwhole
    · exact ⟨'0', [], rfl, List.forall_mem_singleton.mpr rfl, fun _ => rfl⟩
    · obtain ⟨first, more, rfl⟩ := List.exists_cons_of_ne_nil hne
      exact ⟨first, more, rfl, hall, fun he => absurd (congrArg some he) hhead⟩
  obtain ⟨htake, hdrop⟩ := span_isDigit hall (head_of_isFraction hfraction hexponent)
  have hfirst : isDigit first = true := hall first List.mem_cons_self
  have hlone : (first == '0' && decide (1 < (first :: more).length)) = false := by
    by_contra hnot
    rw [Bool.not_eq_false, Bool.and_eq_true, beq_iff_eq, decide_eq_true_iff] at hnot
    rw [hzero hnot.1] at hnot
    exact absurd hnot.2 (Nat.lt_irrefl 1)
  unfold scanUnsigned
  rw [htake, hdrop]
  simp only [List.cons_append, hfirst, hlone, Bool.not_true, Bool.false_eq_true, if_false]
  obtain rfl | ⟨digits, ⟨hne, hdigits⟩, rfl⟩ := hfraction
  · rw [List.nil_append]
    obtain rfl | ⟨mark, sign, digits, hmark, hsign, hdigits, rfl⟩ := hexponent
    · dsimp only
      split
      · exact .inl ⟨_, rfl⟩
      · exact scanned_scaled negative _ _
    · obtain rfl | rfl := hmark <;> exact scanned_scanExponent hsign hdigits _ _ _
  · have hhead : ∀ c ∈ exponent.head?, isDigit c = false := head_of_isFraction (.inl rfl) hexponent
    obtain ⟨htake, hdrop⟩ := span_isDigit hdigits hhead
    obtain ⟨place, places, rfl⟩ := List.exists_cons_of_ne_nil hne
    simp only [List.cons_append] at htake hdrop ⊢
    rw [htake, hdrop]
    exact scanned_scanScale hexponent negative _ _

/-- Every number is scanned to its end unless it is too large. -/
theorem scanned_of_isNumber (hs : IsNumber s) : Scanned (scanNumber s) := by
  obtain ⟨sign, whole, fraction, exponent, hsign, hwhole, hfraction, hexponent, rfl⟩ := hs
  obtain rfl | rfl := hsign
  · obtain ⟨c, t, rfl, hc⟩ := head_of_isWhole hwhole
    rw [List.nil_append, scanNumber]
    · exact scanned_scanUnsigned hwhole hfraction hexponent false
    · rintro u he
      cases he
      cases hc
  · exact scanned_scanUnsigned hwhole hfraction hexponent true
/-- Every number is read to its end as one of single precision, unless it is too large. -/
theorem readSingle_of_isNumber (h : IsNumber s) :
    (∃ x, readSingle s = .ok (x, [])) ∨ readSingle s = .error .numberOutOfRange := by
  obtain ⟨c, t, rfl, hc⟩ := head_of_isNumber h
  have hfirst : (c == '-' || isDigit c) = true := by
    obtain rfl | hc := hc
    · rfl
    · rw [hc, Bool.or_true]
  have hspace : isSpace c = false := by
    obtain rfl | hc := hc
    · rfl
    · exact isSpace_of_isDigit hc
  rw [readSingle, readNumber, skipSpace_cons hspace]
  dsimp only
  rw [if_pos hfirst]
  obtain ⟨n, hn⟩ | hn := scanned_of_isNumber h
  · rw [hn]
    cases n <;> exact .inl ⟨_, rfl⟩
  · rw [hn]
    exact .inr rfl

end Compositor.Json
