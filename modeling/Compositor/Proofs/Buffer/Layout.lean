import Compositor.Buffer.Order
import Mathlib.Algebra.Group.Even
import Mathlib.Algebra.Group.Nat.Defs
import Mathlib.Data.Nat.Log
import Mathlib.Order.Bounds.Basic

/-!
# Layouts

What the layout of an order is like: how large the images are and how many samples they have,
depending on what the driver lets the compositor use.
-/

namespace Compositor

/-- The powers of two from `n` on. -/
def powersFrom (n : Nat) : Set Nat := {m | n ≤ m ∧ ∃ k : Nat, m = 2 ^ k}

theorem isLeast_of_nextPowerOfTwo? {n m : Nat} (h : nextPowerOfTwo? n = some m) :
    IsLeast (powersFrom n) m := by
  unfold nextPowerOfTwo? at h
  obtain ⟨-, hm⟩ := Option.ite_none_right_eq_some.mp h
  cases hm
  split
  · rename_i hn
    refine ⟨⟨hn, 0, rfl⟩, ?_⟩
    rintro _ ⟨-, k, rfl⟩
    exact Nat.one_le_two_pow
  · rename_i hn
    have hne : n - 1 ≠ 0 := by omega
    have hlt : n - 1 < 2 ^ ((n - 1).log2 + 1) := Nat.lt_log2_self
    refine ⟨⟨by omega, _, rfl⟩, ?_⟩
    rintro _ ⟨hk, k, rfl⟩
    -- a power that covers `n` is above `n - 1`, so its exponent is above the logarithm
    have hlog : (n - 1).log2 < k := (Nat.log2_lt hne).mpr (by omega)
    exact Nat.pow_le_pow_right (by omega) hlog

theorem isLeast_two_pow_clog (n : Nat) : IsLeast (powersFrom n) (2 ^ Nat.clog 2 n) := by
  refine ⟨⟨Nat.le_pow_clog Nat.one_lt_two n, _, rfl⟩, ?_⟩
  rintro _ ⟨hk, k, rfl⟩
  exact Nat.pow_le_pow_right Nat.two_pos (Nat.clog_le_of_le_pow hk)

theorem nextPowerOfTwo?_eq_some {n : Nat} (h : n ≤ 2 ^ 31) :
    nextPowerOfTwo? n = some (2 ^ Nat.clog 2 n) := by
  have hpower : (if n ≤ 1 then 1 else 2 ^ ((n - 1).log2 + 1)) < 2 ^ 32 := by
    split
    · decide
    · have hlog : (n - 1).log2 < 31 := (Nat.log2_lt (by omega)).mpr (by omega)
      exact Nat.pow_lt_pow_right Nat.one_lt_two (Nat.succ_lt_succ hlog)
  have hsome : nextPowerOfTwo? n = some _ := if_pos hpower
  rw [hsome, (isLeast_of_nextPowerOfTwo? hsome).unique (isLeast_two_pow_clog n)]

theorem nextPowerOfTwo?_eq_none {n : Nat} (h : 2 ^ 31 < n) : nextPowerOfTwo? n = none := by
  refine Option.eq_none_iff_forall_ne_some.mpr fun m hm => ?_
  obtain ⟨⟨hle, k, rfl⟩, -⟩ := isLeast_of_nextPowerOfTwo? hm
  obtain ⟨hlt, hpower⟩ := Option.ite_none_right_eq_some.mp hm
  rw [Option.some.inj hpower] at hlt
  -- no power of two lies between `2 ^ 31` and `2 ^ 32`
  have hlow : 31 < k := (Nat.pow_lt_pow_iff_right Nat.one_lt_two).mp (Nat.lt_of_lt_of_le h hle)
  have hhigh : k < 32 := (Nat.pow_lt_pow_iff_right Nat.one_lt_two).mp hlt
  omega

theorem effectiveSamples_pos (quality : Nat) : 0 < effectiveSamples quality := by
  unfold effectiveSamples
  split <;> omega

theorem effectiveSamples_le (quality : Nat) : effectiveSamples quality ≤ max 1 quality := by
  unfold effectiveSamples
  split <;> omega

theorem effectiveSamples_mono : Monotone effectiveSamples := by
  intro low high hle
  unfold effectiveSamples
  split <;> split <;> omega

theorem effectiveSamples_even (quality : Nat) :
    effectiveSamples quality = 1 ∨ Even (effectiveSamples quality) := by
  unfold effectiveSamples
  split
  · exact Or.inl rfl
  · exact Or.inr ⟨quality / 2, by omega⟩

namespace Profile

theorem sampleLimit_pos (p : Profile) : 0 < p.sampleLimit := by
  unfold sampleLimit
  omega

theorem maxSamples_capabilities (p : Profile) :
    0 < p.capabilities.maxSamples ∧ p.capabilities.maxSamples ≤ p.sampleLimit ∧
      (p.capabilities.canMultisample = false → p.capabilities.maxSamples = 1) := by
  have hlimit := p.sampleLimit_pos
  unfold capabilities Capabilities.canMultisample
  dsimp only
  split
  · rename_i hm
    refine ⟨hlimit, Nat.le_refl _, fun hc => ?_⟩
    rw [hm, (Bool.and_eq_true_iff.mp hm).1] at hc
    cases hc
  · exact ⟨Nat.one_pos, hlimit, fun _ => rfl⟩

end Profile

/-- The layout suits a surface of a size that asks for an antialiasing quality, with what a driver
lets the compositor use. -/
structure Layout.Suits (l : Layout) (size : Size) (quality : Nat) (caps : Capabilities) : Prop where
  exact : caps.nonPowerOfTwo = true → l.size = ⟨max size.width 1, max size.height 1⟩
  rounded : caps.nonPowerOfTwo = false →
    IsLeast (powersFrom size.width) l.size.width ∧ IsLeast (powersFrom size.height) l.size.height
  positive : 0 < l.samples
  even : l.samples = 1 ∨ Even l.samples
  wanted : l.samples ≤ max 1 (effectiveSamples quality)
  possible : l.samples ≤ caps.maxSamples
  packed : l.packed = caps.packedDepthStencil

theorem Capabilities.size_of_imageSize? {caps : Capabilities} {size image : Size}
    (h : caps.imageSize? size = some image) :
    (caps.nonPowerOfTwo = true → image = ⟨max size.width 1, max size.height 1⟩) ∧
      (caps.nonPowerOfTwo = false → IsLeast (powersFrom size.width) image.width ∧
        IsLeast (powersFrom size.height) image.height) := by
  unfold imageSize? at h
  split at h
  · rename_i hn
    cases h
    exact ⟨fun _ => rfl, fun hf => by rw [hn] at hf; cases hf⟩
  · rename_i hn
    obtain ⟨width, hw, h⟩ := Option.bind_eq_some_iff.mp h
    obtain ⟨height, hh, h⟩ := Option.bind_eq_some_iff.mp h
    cases h
    exact ⟨fun ht => absurd ht hn,
      fun _ => ⟨isLeast_of_nextPowerOfTwo? hw, isLeast_of_nextPowerOfTwo? hh⟩⟩

theorem Capabilities.imageSize?_of_powersOfTwo {caps : Capabilities} {size : Size}
    (h : caps.nonPowerOfTwo = false) :
    caps.imageSize? size =
      if 2 ^ 31 < size.width ∨ 2 ^ 31 < size.height then Option.none
      else some ⟨2 ^ Nat.clog 2 size.width, 2 ^ Nat.clog 2 size.height⟩ := by
  rw [imageSize?, h, if_neg Bool.false_ne_true]
  rcases Nat.lt_or_ge (2 ^ 31) size.width with hw | hw
  · rw [nextPowerOfTwo?_eq_none hw, if_pos (Or.inl hw)]
    rfl
  · rcases Nat.lt_or_ge (2 ^ 31) size.height with hh | hh
    · rw [nextPowerOfTwo?_eq_some hw, nextPowerOfTwo?_eq_none hh, if_pos (Or.inr hh)]
      rfl
    · rw [nextPowerOfTwo?_eq_some hw, nextPowerOfTwo?_eq_some hh, if_neg (by omega)]
      rfl

/-- An image is never empty. -/
theorem Capabilities.not_isEmpty_of_imageSize? {caps : Capabilities} {size image : Size}
    (h : caps.imageSize? size = some image) : image.isEmpty = false := by
  have hpos {n m : Nat} (hm : IsLeast (powersFrom n) m) : m ≠ 0 := by
    obtain ⟨⟨-, k, rfl⟩, -⟩ := hm
    exact Nat.ne_of_gt (Nat.two_pow_pos k)
  obtain ⟨hexact, hrounded⟩ := size_of_imageSize? h
  cases hn : caps.nonPowerOfTwo with
  | true =>
    rw [hexact hn]
    simp [Size.isEmpty]
  | false =>
    obtain ⟨hw, hh⟩ := hrounded hn
    simp [Size.isEmpty, hpos hw, hpos hh]

namespace Order

/-- How a layout comes about. -/
theorem layout_ok {o : Order} {caps : Capabilities} {l : Layout} (h : o.layout caps = .ok l) :
    (1 < o.samples → caps.canMultisample = true) ∧ caps.imageSize? o.size = some l.size ∧
      l.samples = caps.limitSamples o.samples ∧ l.packed = caps.packedDepthStencil := by
  unfold layout at h
  split at h
  · cases h
  · rename_i hm
    split at h
    · cases h
    · rename_i image hs
      cases h
      exact ⟨fun hlt => by simpa [hlt] using hm, hs, rfl, rfl⟩

/-- The layout that a driver allows suits the surface that the order is for. -/
theorem suits_of_layout {size : Size} {quality : Nat} {owner : Context} {p : Profile} {l : Layout}
    (h : (ofQuality size quality owner).layout p.capabilities = .ok l) :
    l.Suits size quality p.capabilities := by
  obtain ⟨hm, himage, hs, hpacked⟩ := layout_ok h
  obtain ⟨hmax, -, -⟩ := p.maxSamples_capabilities
  obtain ⟨hexact, hrounded⟩ := Capabilities.size_of_imageSize? himage
  have hsamples : l.samples = p.capabilities.limitSamples (effectiveSamples quality) := hs
  unfold Capabilities.limitSamples at hsamples
  have hle := effectiveSamples_le p.capabilities.maxSamples
  refine ⟨hexact, hrounded, ?_, ?_, ?_, ?_, hpacked⟩ <;> rw [hsamples] <;> split
  · exact effectiveSamples_pos _
  · exact effectiveSamples_pos _
  · exact effectiveSamples_even _
  · exact effectiveSamples_even _
  · omega
  · omega
  · omega
  · omega

end Order

end Compositor
