import Compositor.Platform
import Mathlib.Data.List.TakeWhile

/-!
# Versions read off a text

The version of a platform stands in the first two parts of its text between dots. A part counts if
it is a numeral of 32 bits with any white space around it; what comes after the second part does not
matter. Without a second part the minor number is zero, and where a part that counts is no numeral
there is no version.
-/

namespace Compositor

namespace Text

/-! ## Numerals -/

/-- The text is a numeral for a number of 32 bits: at least one digit, behind a plus sign or not. -/
def Denotes (s : List Char) (n : Nat) : Prop :=
  ∃ digits, (s = digits ∨ s = '+' :: digits) ∧ digits ≠ [] ∧ (∀ c ∈ digits, c.isDigit = true) ∧
    Nat.ofDigitChars 10 digits 0 = n ∧ n < UInt32.size

variable {s : List Char} {n : Nat}

theorem digit?_eq (c : Char) :
    digit? c = if c.isDigit then some (c.toNat - '0'.toNat) else none := by
  have hdigit : ('0' ≤ c ∧ c ≤ '9') ↔ c.isDigit = true := by
    simp [Char.isDigit, Char.le_def]
  simp [digit?, hdigit]

theorem digitsFrom?_eq_some_iff {start : Nat} :
    digitsFrom? start s = some n ↔
      (∀ c ∈ s, c.isDigit = true) ∧ Nat.ofDigitChars 10 s start = n := by
  induction s generalizing start with
  | nil => simp [digitsFrom?]
  | cons c s ih =>
    rw [digitsFrom?, digit?_eq, Nat.ofDigitChars_cons]
    by_cases hc : c.isDigit = true
    · simp [hc, ih]
    · simp [hc]

theorem natural?_eq_some_iff :
    natural? s = some n ↔
      s ≠ [] ∧ (∀ c ∈ s, c.isDigit = true) ∧ Nat.ofDigitChars 10 s 0 = n := by
  cases s with
  | nil => simp [natural?]
  | cons c s => simp [natural?, digitsFrom?_eq_some_iff]

theorem word?_eq_some_iff : word? s = some n ↔ Denotes s n := by
  unfold word?
  rw [Option.filter_eq_some_iff, natural?_eq_some_iff, decide_eq_true_iff]
  constructor
  · intro h
    obtain ⟨⟨hne, hdigits, hn⟩, hlt⟩ := h
    refine ⟨_, ?_, hne, hdigits, hn, hlt⟩
    split
    · exact Or.inr rfl
    · exact Or.inl rfl
  · intro h
    obtain ⟨digits, hs, hne, hdigits, hn, hlt⟩ := h
    have hplus : '+' ∉ digits := by
      intro hmem
      have hfalse := hdigits '+' hmem
      simp at hfalse
    obtain rfl | rfl := hs
    · split
      · simp at hplus
      · exact ⟨⟨hne, hdigits, hn⟩, hlt⟩
    · exact ⟨⟨hne, hdigits, hn⟩, hlt⟩

/-- A number of 32 bits in decimal is a numeral for it. -/
theorem denotes_toString (n : UInt32) : Denotes (toString n.toNat).toList n.toNat := by
  have htext : (toString n.toNat).toList = Nat.toDigits 10 n.toNat := by
    rw [Nat.toString_eq_ofList_toDigits, String.toList_ofList]
  rw [htext]
  exact ⟨_, Or.inl rfl, Nat.toDigits_ne_nil,
    fun c hc => Nat.isDigit_of_mem_toDigits (by omega) (Nat.le_refl 10) hc,
    Nat.ofDigitChars_ten_toDigits, n.toNat_lt⟩

/-! ## White space around a text -/

def AllBlank (s : List Char) : Prop := ∀ c ∈ s, isBlank c = true

instance (s : List Char) : Decidable (AllBlank s) :=
  decidable_of_iff (s.all isBlank = true) List.all_eq_true

/-- The first text is the second with any white space around it. -/
def Pads (s t : List Char) : Prop :=
  ∃ left right, AllBlank left ∧ AllBlank right ∧ s = left ++ t ++ right

theorem dropWhile_isBlank (h : ∀ c ∈ s, isBlank c = false) : s.dropWhile isBlank = s := by
  cases s with
  | nil => rfl
  | cons c s => simp [h c]

theorem Pads.trim_eq {t : List Char} (h : Pads t s) (hs : ∀ c ∈ s, isBlank c = false) :
    trim t = s := by
  obtain ⟨left, right, hl, hr, rfl⟩ := h
  rw [trim, List.append_assoc, List.dropWhile_append_of_pos hl]
  cases s with
  | nil => simp [List.dropWhile_eq_nil_iff.mpr hr]
  | cons c t =>
    have hreverse : ∀ a ∈ (c :: t).reverse, isBlank a = false := by
      intro a ha
      exact hs a (List.mem_reverse.mp ha)
    have hright : ∀ a ∈ right.reverse, isBlank a = true := by
      intro a ha
      exact hr a (List.mem_reverse.mp ha)
    rw [List.cons_append, List.dropWhile_cons_of_neg (by simp [hs c]), ← List.cons_append,
      List.reverse_append, List.dropWhile_append_of_pos hright, dropWhile_isBlank hreverse,
      List.reverse_reverse]

/-- Trimming takes nothing but white space off. -/
theorem pads_trim (s : List Char) : Pads s (trim s) := by
  have hblank (t : List Char) : AllBlank (t.takeWhile isBlank) := by
    intro c hc
    exact List.mem_takeWhile_imp hc
  refine ⟨s.takeWhile isBlank, ((s.dropWhile isBlank).reverse.takeWhile isBlank).reverse,
    hblank s, ?_, ?_⟩
  · intro c hc
    exact hblank _ c (List.mem_reverse.mp hc)
  · rw [trim, List.append_assoc, ← List.reverse_append, List.takeWhile_append_dropWhile,
      List.reverse_reverse, List.takeWhile_append_dropWhile]

/-- The text is a numeral with any white space around it. -/
def Tells (s : List Char) (n : Nat) : Prop := ∃ numeral, Pads s numeral ∧ Denotes numeral n

theorem Pads.tells_toString {n : UInt32} (h : Pads s (toString n.toNat).toList) :
    Tells s n.toNat :=
  ⟨_, h, denotes_toString n⟩

/-- The characters of a numeral are neither blank nor dots. -/
theorem Denotes.of_mem (h : Denotes s n) {c : Char} (hc : c ∈ s) :
    isBlank c = false ∧ c ≠ '.' := by
  obtain ⟨digits, hs, -, hdigits, -⟩ := h
  have hdigit : c.isDigit = true → isBlank c = false ∧ c ≠ '.' := by
    intro hd
    simp only [Char.isDigit, Bool.and_eq_true, decide_eq_true_eq, ge_iff_le] at hd
    have hlow : 48 ≤ c.toNat := hd.1
    have hhigh : c.toNat ≤ 57 := hd.2
    constructor
    · simp [isBlank, inRanges, blankRanges]
      omega
    · rintro rfl
      simp at hlow
  obtain rfl | rfl := hs
  · exact hdigit (hdigits c hc)
  · obtain rfl | hc := List.mem_cons.mp hc
    · decide
    · exact hdigit (hdigits c hc)

theorem word?_trim_eq_some_iff : word? (trim s) = some n ↔ Tells s n := by
  rw [word?_eq_some_iff]
  constructor
  · intro h
    exact ⟨trim s, pads_trim s, h⟩
  · rintro ⟨numeral, hpads, h⟩
    rwa [hpads.trim_eq fun c hc => (h.of_mem hc).1]

theorem word?_trim_eq_none (h : ∀ n, ¬ Tells s n) : word? (trim s) = none := by
  rw [Option.eq_none_iff_forall_ne_some]
  intro n hn
  exact h n (word?_trim_eq_some_iff.mp hn)

theorem Tells.not_dot (h : Tells s n) : '.' ∉ s := by
  obtain ⟨numeral, ⟨left, right, hl, hr, rfl⟩, hn⟩ := h
  have hdot {t : List Char} (ht : AllBlank t) : '.' ∉ t := by
    intro hmem
    have hblank := ht '.' hmem
    simp [isBlank, inRanges, blankRanges] at hblank
  have hnumeral : '.' ∉ numeral := by
    intro hmem
    exact (hn.of_mem hmem).2 rfl
  simp [hdot hl, hdot hr, hnumeral]

end Text

open Text

namespace Platform

/-! ## Parts between dots -/

/-- The first two parts of a text between dots, the second if there is one. -/
inductive Parts : List Char → List Char → Option (List Char) → Prop where
  | lone {first : List Char} : '.' ∉ first → Parts first first none
  | dotted {first second tail : List Char} : '.' ∉ first → '.' ∉ second →
    (∀ c ∈ tail.head?, c = '.') → Parts (first ++ '.' :: (second ++ tail)) first (some second)

/-- Every text has a first part. -/
theorem exists_parts (text : List Char) : ∃ first second?, Parts text first second? := by
  by_cases hdot : '.' ∈ text
  · obtain ⟨first, rest, rfl, hfirst⟩ := List.eq_append_cons_of_mem hdot
    by_cases hmore : '.' ∈ rest
    · obtain ⟨second, tail, rfl, hsecond⟩ := List.eq_append_cons_of_mem hmore
      exact ⟨first, some second, .dotted hfirst hsecond (by simp)⟩
    · have hparts : Parts (first ++ '.' :: (rest ++ [])) first (some rest) :=
        .dotted hfirst hmore nofun
      rw [List.append_nil] at hparts
      exact ⟨first, some rest, hparts⟩
  · exact ⟨text, none, .lone hdot⟩

theorem eq_false_of_not_mem {s : List Char} (h : '.' ∉ s) : ∀ c ∈ s, (c == '.') = false := by
  intro c hc
  rw [beq_eq_false_iff_ne]
  rintro rfl
  exact h hc

variable {p : Platform} {first second tail : List Char}

/-- Without a dot the whole text is the major number. -/
theorem version?_of_not_mem (h : '.' ∉ p.osVersion.toList) :
    p.version? = (word? (trim p.osVersion.toList)).map (·, 0) := by
  rw [version?, splitAt_eq_self (eq_false_of_not_mem h)]

/-- With a dot the version is read off the first two parts. -/
theorem version?_of_dotted (htext : p.osVersion.toList = first ++ '.' :: (second ++ tail))
    (hfirst : '.' ∉ first) (hsecond : '.' ∉ second) (htail : ∀ c ∈ tail.head?, c = '.') :
    p.version? = (word? (trim first)).bind fun major =>
      (word? (trim second)).map fun minor => (major, minor) := by
  have hsplit : ∃ more, splitAt (· == '.') (second ++ tail) = second :: more := by
    cases tail with
    | nil => exact ⟨[], by simp [splitAt_eq_self (eq_false_of_not_mem hsecond)]⟩
    | cons c tail =>
      obtain rfl := htail c rfl
      exact ⟨_, splitAt_append_cons (eq_false_of_not_mem hsecond) rfl⟩
  obtain ⟨more, hmore⟩ := hsplit
  rw [version?, htext, splitAt_append_cons (eq_false_of_not_mem hfirst) rfl, hmore]
  dsimp only
  cases word? (trim first) with
  | none => rfl
  | some major => cases word? (trim second) <;> rfl

/-! ## Versions -/

theorem version?_of_tells {major : Nat} (h : Tells p.osVersion.toList major) :
    p.version? = some (major, 0) := by
  rw [version?_of_not_mem h.not_dot, word?_trim_eq_some_iff.mpr h]
  rfl

theorem version?_of_tells_dotted {major minor : Nat}
    (htext : p.osVersion.toList = first ++ '.' :: (second ++ tail)) (hfirst : Tells first major)
    (hsecond : Tells second minor) (htail : ∀ c ∈ tail.head?, c = '.') :
    p.version? = some (major, minor) := by
  rw [version?_of_dotted htext hfirst.not_dot hsecond.not_dot htail,
    word?_trim_eq_some_iff.mpr hfirst, word?_trim_eq_some_iff.mpr hsecond]
  rfl

theorem version?_eq_none {second? : Option (List Char)}
    (h : Parts p.osVersion.toList first second?)
    (hnot : (∀ n, ¬ Tells first n) ∨ ∃ second ∈ second?, ∀ n, ¬ Tells second n) :
    p.version? = none := by
  generalize htext : p.osVersion.toList = text at h
  cases h with
  | lone hfirst =>
    have hfails : ∀ n, ¬ Tells p.osVersion.toList n := by
      simpa [htext] using hnot
    rw [version?_of_not_mem (htext ▸ hfirst), word?_trim_eq_none hfails]
    rfl
  | @dotted _ second tail hfirst hsecond htail =>
    rw [version?_of_dotted htext hfirst hsecond htail]
    obtain hnot | ⟨other, hother, hnot⟩ := hnot
    · rw [word?_trim_eq_none hnot]
      rfl
    · obtain rfl := Option.mem_some_iff.mp hother
      rw [word?_trim_eq_none hnot]
      cases word? (trim first) <;> rfl

end Platform

end Compositor
