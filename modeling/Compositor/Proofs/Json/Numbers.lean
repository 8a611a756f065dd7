import Compositor.Json.Reader
import Mathlib.Data.List.TakeWhile

/-!
# Numbers read back

A number ends where no character follows that could belong to it, so what is scanned from a text is
also scanned where something else stands behind it. The numeral of a natural number below `2 ^ 64`
is scanned as that number.
-/

namespace Compositor.Json

/-! ## The end of a number -/

/-- No number goes on with the rest of a text. -/
def EndsNumber (rest : List Char) : Prop :=
  ∀ c ∈ rest.head?, isDigit c = false ∧ c ≠ '.' ∧ c ≠ 'e' ∧ c ≠ 'E'

variable {rest s r : List Char} {n : Number} {negative : Bool} {significand : Nat} {exponent : Int}

theorem endsNumber_nil : EndsNumber [] := nofun

theorem endsNumber_cons {c : Char} (h : isDigit c = false ∧ c ≠ '.' ∧ c ≠ 'e' ∧ c ≠ 'E')
    (s : List Char) : EndsNumber (c :: s) := by
  intro d hd
  cases hd
  exact h

theorem isSpace_of_isDigit {c : Char} (h : isDigit c = true) : isSpace c = false := by
  by_contra hspace
  simp only [isSpace, Bool.not_eq_false, Bool.or_eq_true, beq_iff_eq] at hspace
  rcases hspace with ((rfl | rfl) | rfl) | rfl <;> cases h

namespace EndsNumber

theorem takeWhile_isDigit (h : EndsNumber rest) (s : List Char) :
    (s ++ rest).takeWhile isDigit = s.takeWhile isDigit := by
  induction s with
  | nil =>
    cases rest with
    | nil => rfl
    | cons c rest =>
      exact List.takeWhile_cons_of_neg (by rw [(h c rfl).1]; exact Bool.false_ne_true)
  | cons c s ih => rw [List.cons_append, List.takeWhile_cons, List.takeWhile_cons, ih]

theorem dropWhile_isDigit (h : EndsNumber rest) (s : List Char) :
    (s ++ rest).dropWhile isDigit = s.dropWhile isDigit ++ rest := by
  induction s with
  | nil =>
    cases rest with
    | nil => rfl
    | cons c rest =>
      exact List.dropWhile_cons_of_neg (by rw [(h c rfl).1]; exact Bool.false_ne_true)
  | cons c s ih =>
    rw [List.cons_append, List.dropWhile_cons, List.dropWhile_cons, ih]
    split <;> rfl

end EndsNumber

/-! ## Numbers before something else -/

theorem map_append {α : Type} {x : Except Fault α} {f : α → Number}
    (hs : x.map (fun a => (f a, s)) = .ok (n, r)) :
    x.map (fun a => (f a, s ++ rest)) = .ok (n, r ++ rest) := by
  cases x with
  | error fault => cases hs
  | ok a =>
    cases hs
    rfl

theorem scanExponent_append (h : EndsNumber rest)
    (hs : scanExponent negative significand exponent s = .ok (n, r)) :
    scanExponent negative significand exponent (s ++ rest) = .ok (n, r ++ rest) := by
  cases s with
  | nil => cases hs
  | cons a t =>
    unfold scanExponent at hs ⊢
    simp only [List.cons_append, List.head?_cons, List.drop_one, List.tail_cons] at hs ⊢
    generalize (some a == some '-') = down at hs ⊢
    generalize hd : (if (down || some a == some '+') = true then t else a :: t) = digits at hs
    have happend : (if (down || some a == some '+') = true then t ++ rest else a :: (t ++ rest)) =
        digits ++ rest := by
      rw [← hd]
      split <;> rfl
    rw [happend]
    cases digits with
    | nil => cases hs
    | cons c u =>
      rw [h.takeWhile_isDigit, h.dropWhile_isDigit]
      simp only [List.cons_append] at hs ⊢
      split at hs
      · rename_i hdigit
        rw [if_pos hdigit]
        split at hs
        · rename_i hpower
          rw [if_pos hpower]
          exact map_append hs
        · rename_i hpower
          rw [if_neg hpower]
          split at hs
          · cases hs
          · rename_i hzero
            rw [if_neg hzero]
            cases hs
            rfl
      · cases hs

/-- Without an exponent the number ends here. -/
theorem scanScale_of_ne (h : ∀ c ∈ s.head?, c ≠ 'e' ∧ c ≠ 'E') :
    scanScale negative significand exponent s =
      (scaled significand exponent).map fun x => (.float (signed negative x), s) := by
  unfold scanScale
  split
  · exact absurd rfl (h 'e' rfl).1
  · exact absurd rfl (h 'E' rfl).2
  · rfl

theorem scanScale_append (h : EndsNumber rest)
    (hs : scanScale negative significand exponent s = .ok (n, r)) :
    scanScale negative significand exponent (s ++ rest) = .ok (n, r ++ rest) := by
  unfold scanScale at hs
  split at hs
  · exact scanExponent_append h hs
  · exact scanExponent_append h hs
  · rename_i hlower hupper
    rw [scanScale_of_ne]
    · exact map_append hs
    · intro c hc
      cases s with
      | nil => exact (h c hc).2.2
      | cons a t =>
        cases hc
        exact ⟨fun he => hlower t (by rw [he]), fun he => hupper t (by rw [he])⟩

/-- A number without its sign is scanned where something else follows. -/
theorem scanUnsigned_append (h : EndsNumber rest)
    (hs : scanUnsigned negative s = .ok (n, r)) :
    scanUnsigned negative (s ++ rest) = .ok (n, r ++ rest) := by
  unfold scanUnsigned at hs ⊢
  rw [h.takeWhile_isDigit, h.dropWhile_isDigit]
  cases s with
  | nil => cases hs
  | cons first t =>
    simp only [List.cons_append] at hs ⊢
    split at hs
    · cases hs
    rename_i hdigit
    rw [if_neg hdigit]
    split at hs
    · cases hs
    rename_i hzero
    rw [if_neg hzero]
    generalize List.dropWhile isDigit (first :: t) = after at hs ⊢
    split at hs
    · rename_i fraction
      simp only [List.cons_append] at hs ⊢
      rw [h.takeWhile_isDigit, h.dropWhile_isDigit]
      generalize List.takeWhile isDigit fraction = places at hs ⊢
      cases places with
      | nil => split at hs <;> first | cases hs | contradiction
      | cons place places => exact scanScale_append h hs
    · exact scanScale_append h hs
    · exact scanScale_append h hs
    · rename_i hpoint hlower hupper
      -- neither what is left of the number nor what follows starts with a point or a mark
      have hhead : ∀ c ∈ (after ++ rest).head?, c ≠ '.' ∧ c ≠ 'e' ∧ c ≠ 'E' := by
        intro c hc
        cases after with
        | nil => exact (h c hc).2
        | cons a u =>
          cases hc
          exact ⟨fun he => hpoint u (by rw [he]), fun he => hlower u (by rw [he]),
            fun he => hupper u (by rw [he])⟩
      split
      · rename_i he
        exact absurd rfl (hhead '.' (by rw [he]; rfl)).1
      · rename_i he
        exact absurd rfl (hhead 'e' (by rw [he]; rfl)).2.1
      · rename_i he
        exact absurd rfl (hhead 'E' (by rw [he]; rfl)).2.2
      · split at hs
        · rename_i hempty
          rw [if_pos hempty]
          cases hs
          rfl
        · rename_i hempty
          rw [if_neg hempty]
          exact scanScale_append h hs

theorem scanNumber_append (h : EndsNumber rest) (hs : scanNumber s = .ok (n, r)) :
    scanNumber (s ++ rest) = .ok (n, r ++ rest) := by
  unfold scanNumber at hs
  split at hs
  · exact scanUnsigned_append h hs
  · rename_i hsign
    cases s with
    | nil => cases hs
    | cons a t =>
      have ha : a ≠ '-' := fun he => hsign t (by rw [he])
      rw [List.cons_append, scanNumber]
      · exact scanUnsigned_append h hs
      · intro u he
        cases he
        exact ha rfl

/-! ## Numerals -/

theorem isDigit_of_mem_toDigits {n : Nat} {c : Char} (h : c ∈ Nat.toDigits 10 n) :
    isDigit c = true :=
  Nat.isDigit_of_mem_toDigits (by omega) (Nat.le_refl 10) h

/-- Only the numeral of zero starts with a zero. -/
theorem eq_zero_of_head?_toDigits {n : Nat} (h : (Nat.toDigits 10 n).head? = some '0') :
    n = 0 := by
  induction n using Nat.strongRecOn with
  | ind n ih =>
    rw [Nat.toDigits_eq_if (by omega)] at h
    split at h
    · exact Nat.digitChar_eq_zero.mp (Option.some.inj h)
    · have hhead : (Nat.toDigits 10 (n / 10)).head? = some '0' := by
        cases hd : Nat.toDigits 10 (n / 10) with
        | nil => exact absurd hd Nat.toDigits_ne_nil
        | cons c cs => rwa [hd] at h
      have hzero := ih (n / 10) (by omega) hhead
      omega

theorem le_ofDigitChars (digits : List Char) (n : Nat) : n ≤ Nat.ofDigitChars 10 digits n := by
  induction digits generalizing n with
  | nil => exact Nat.le_refl n
  | cons c digits ih =>
    rw [Nat.ofDigitChars_cons]
    exact Nat.le_trans (by omega) (ih _)

/-- Digits are appended as long as the number stays below `2 ^ 64`. -/
theorem appendDigits_of_lt {n : Nat} {digits : List Char}
    (h : Nat.ofDigitChars 10 digits n < UInt64.size) :
    appendDigits n digits = (Nat.ofDigitChars 10 digits n, []) := by
  induction digits generalizing n with
  | nil => rfl
  | cons c digits ih =>
    rw [Nat.ofDigitChars_cons] at h ⊢
    rw [appendDigits]
    exact (if_pos (Nat.lt_of_le_of_lt (le_ofDigitChars digits _) h)).trans (ih h)

/-- The numeral of a natural number is scanned as the number. -/
theorem scanNumber_toDigits {n : Nat} (hn : n < UInt64.size) :
    scanNumber (Nat.toDigits 10 n) = .ok (.natural n, []) := by
  have hdigits : ∀ c ∈ Nat.toDigits 10 n, isDigit c = true := fun c => isDigit_of_mem_toDigits
  have hzero : (Nat.toDigits 10 n).head? = some '0' → (Nat.toDigits 10 n).length = 1 := by
    intro h
    rw [eq_zero_of_head?_toDigits h]
    rfl
  have happend : appendDigits 0 (Nat.toDigits 10 n) = (n, []) := by
    rw [appendDigits_of_lt (by rwa [Nat.ofDigitChars_ten_toDigits]), Nat.ofDigitChars_ten_toDigits]
  cases hd : Nat.toDigits 10 n with
  | nil => exact absurd hd Nat.toDigits_ne_nil
  | cons first more =>
    rw [hd] at hdigits hzero happend
    have hfirst := hdigits first List.mem_cons_self
    have hsign : first ≠ '-' := by
      rintro rfl
      cases hfirst
    have hlone : (first == '0' && decide (1 < (first :: more).length)) = false := by
      by_contra hnot
      rw [Bool.not_eq_false, Bool.and_eq_true, beq_iff_eq, decide_eq_true_iff] at hnot
      have hone := hzero (congrArg some hnot.1)
      omega
    rw [scanNumber, scanUnsigned, List.takeWhile_eq_self_iff.mpr hdigits,
      List.dropWhile_eq_nil_iff.mpr hdigits]
    · dsimp only
      rw [if_neg (by rw [hfirst]; exact Bool.false_ne_true),
        if_neg (by rw [hlone]; exact Bool.false_ne_true), happend]
      rfl
    · intro s he
      cases he
      exact hsign rfl

end Compositor.Json
