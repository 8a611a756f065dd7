/-!
# White space

The characters with the Unicode property White_Space, and the two things done with them: trimming a
text at both ends and splitting it into words.
-/

namespace Compositor.Text

/-- The code points of white space as closed ranges, ascending and apart. -/
def blankRanges : List (Nat × Nat) :=
  [(0x09, 0x0D), (0x20, 0x20), (0x85, 0x85), (0xA0, 0xA0), (0x1680, 0x1680), (0x2000, 0x200A),
   (0x2028, 0x2029), (0x202F, 0x202F), (0x205F, 0x205F), (0x3000, 0x3000)]

/-- Whether a code point lies in one of the ranges. -/
def inRanges (ranges : List (Nat × Nat)) (code : Nat) : Bool :=
  ranges.any fun r => r.1 ≤ code && code ≤ r.2

/-- Whether a character is white space. -/
def isBlank (c : Char) : Bool := inRanges blankRanges c.toNat

/-- The text without white space at its ends. -/
def trim (s : List Char) : List Char :=
  ((s.dropWhile isBlank).reverse.dropWhile isBlank).reverse

/-- The longest pieces without a character that satisfies `p`, empty ones included: one more than
there are such characters. -/
def splitAt (p : Char → Bool) : List Char → List (List Char)
  | [] => [[]]
  | c :: s =>
    if p c then [] :: splitAt p s
    else
      match splitAt p s with
      | [] => [[c]]
      | piece :: pieces => (c :: piece) :: pieces

/-- The words of a text: its nonempty pieces between white space. -/
def words (s : List Char) : List (List Char) :=
  (splitAt isBlank s).filter (!·.isEmpty)

/-- Whether `part` occurs in `s` as consecutive characters. -/
def occursIn (part : List Char) : List Char → Bool
  | [] => part.isEmpty
  | c :: s => part.isPrefixOf (c :: s) || occursIn part s

/-- A text without the characters to split at is one piece. -/
theorem splitAt_eq_self {p : Char → Bool} {s : List Char} (h : ∀ c ∈ s, p c = false) :
    splitAt p s = [s] := by
  induction s with
  | nil => rfl
  | cons a s ih =>
    have ha : p a = false := h a (by simp)
    have hs := ih fun c hc => h c (by simp [hc])
    simp [splitAt, ha, hs]

/-- What stands before the first character to split at is the first piece. -/
theorem splitAt_append_cons {p : Char → Bool} {s rest : List Char} {c : Char}
    (h : ∀ a ∈ s, p a = false) (hc : p c = true) :
    splitAt p (s ++ c :: rest) = s :: splitAt p rest := by
  induction s with
  | nil => simp [splitAt, hc]
  | cons a s ih =>
    have ha : p a = false := h a (by simp)
    have hs := ih fun b hb => h b (by simp [hb])
    simp [splitAt, ha, hs]

end Compositor.Text
