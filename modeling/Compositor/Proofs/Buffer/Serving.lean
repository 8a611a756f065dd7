import Compositor.Proofs.Buffer.Ensuring
import Compositor.Proofs.Device.Incident
import Mathlib.Logic.Relation

/-!
# The contexts that a set serves

A set that was ordered for a live context serves no other live context: whatever happens in between,
the set that is ensured for the other one is newly made.

A set that was ordered before a context was reported belongs to none, and a set that serves is kept
as it is, so it does not come to belong to one later. The uninitialized context is compatible with
every other. Therefore such a set goes on to serve one live context after the other while it is
asked for in the same size, also when the context that it was made in is gone with its objects.
-/

namespace Compositor

open Relation

namespace Backing

/-- What can happen to a backing with the device below it. -/
inductive Passes : Backing × Device → Backing × Device → Prop where
  | ensure {b b' : Backing} {d e : Device} {order : Order} {caps : Capabilities}
    {result : Except Failure Unit} (h : b.ensure order caps d = (result, b', e)) :
    Passes (b, d) (b', e)
  | destroy (b : Backing) (d : Device) : Passes (b, d) (b.destroy d)
  | forget (b : Backing) (d : Device) : Passes (b, d) (uninitialized, d)
  | undergo (b : Backing) (d : Device) (i : Incident) : Passes (b, d) (b, d.undergo i)

/-- The set of the backing bears a name that the device has handed out. -/
structure Recorded (p : Backing × Device) : Prop where
  regular : p.2.driver.objects.Regular
  texture_le : ∀ set, p.1.set? = some set → set.texture.name ≤ p.2.driver.objects.issued

/-- A set that was not there earlier has a texture that was made since. -/
structure Follows (p q : Backing × Device) : Prop where
  issued_le : p.2.driver.objects.issued ≤ q.2.driver.objects.issued
  set : ∀ set, q.1.set? = some set →
    p.1.set? = some set ∨ p.2.driver.objects.issued < set.texture.name

variable {b b' b₁ b₂ : Backing} {d d' d₁ d₂ e : Device} {p q : Backing × Device}
variable {order order₁ order₂ : Order} {caps caps₁ caps₂ : Capabilities}
variable {result : Except Failure Unit}

theorem Follows.trans {r : Backing × Device} (h : Follows p q) (h' : Follows q r) :
    Follows p r where
  issued_le := Nat.le_trans h.issued_le h'.issued_le
  set set hset := by
    rcases h'.set set hset with hold | hnew
    · exact h.set set hold
    · exact Or.inr (Nat.lt_of_le_of_lt h.issued_le hnew)

theorem texture_handle_mem (s : BufferSet) : s.texture.handle ∈ s.handles :=
  List.mem_map.mpr ⟨.texture s.texture, by simp [BufferSet.parts], rfl⟩

/-- A step that gives the set up or keeps it. -/
theorem Recorded.keep (h : Recorded p) (hr : q.2.driver.objects.Regular)
    (hi : p.2.driver.objects.issued ≤ q.2.driver.objects.issued)
    (hs : ∀ set, q.1.set? = some set → p.1.set? = some set) : Recorded q ∧ Follows p q :=
  ⟨⟨hr, fun set hset => Nat.le_trans (h.texture_le set (hs set hset)) hi⟩,
    hi, fun set hset => Or.inl (hs set hset)⟩

theorem Recorded.destroy (h : Recorded (b, d)) :
    Recorded (b.destroy d) ∧ Follows (b, d) (b.destroy d) := by
  have he := (b.drops_destroy d).1.edits
  refine h.keep (he.regular h.regular) he.issued_le fun set hset => ?_
  rw [set?_destroy] at hset
  cases hset

theorem Recorded.ensure (h : Recorded (b, d)) (he : b.ensure order caps d = (result, b', e)) :
    Recorded (b', e) ∧ Follows (b, d) (b', e) := by
  cases hs : b.serves order with
  | true =>
    rw [ensure_of_serves hs] at he
    cases he
    exact h.keep h.regular (Nat.le_refl _) fun _ hset => hset
  | false =>
    have hdrop := (b.drops_discard order.owner d).1.edits
    obtain ⟨new, hgrows, hordered⟩ := grows_of_ensure h.regular hs he
    have hedits := hdrop.trans hgrows.edits
    have hregular := hedits.regular h.regular
    have hmade (set : BufferSet) (hset : b'.set? = some set) : set.texture.handle ∈ new := by
      rw [← (hordered set hset).2]
      exact texture_handle_mem set
    refine ⟨⟨hregular, fun set hset => ?_⟩, hedits.issued_le, fun set hset => Or.inr ?_⟩
    · exact hregular.name_le _ ((hgrows.live _).mpr (Or.inr (hmade set hset)))
    · exact Nat.lt_of_le_of_lt hdrop.issued_le (hgrows.fresh _ (hmade set hset))

theorem Passes.follows (hp : Passes p q) (h : Recorded p) : Recorded q ∧ Follows p q := by
  cases hp with
  | ensure he => exact h.ensure he
  | destroy b d => exact h.destroy
  | forget b d => exact h.keep h.regular (Nat.le_refl _) nofun
  | undergo b d i =>
    exact h.keep (Device.regular_undergo h.regular i) (d.issued_le_undergo i) fun _ hset => hset

theorem follows_of_passes (hp : ReflTransGen Passes p q) (h : Recorded p) :
    Recorded q ∧ Follows p q := by
  induction hp with
  | refl => exact h.keep h.regular (Nat.le_refl _) fun _ hset => hset
  | tail _ hstep ih =>
    obtain ⟨hrecorded, hfollows⟩ := hstep.follows ih.1
    exact ⟨hrecorded, ih.2.trans hfollows⟩

/-- A set that is ensured is one that may be used in the context and has the size and the samples
asked for. -/
theorem set?_of_ensure_ok (hd : d.driver.objects.Regular)
    (h : b.ensure order caps d = (.ok (), b', e)) :
    ∃ set, b'.set? = some set ∧ set.order.owner.compatible order.owner = true ∧
      order.isServedBy set.order = true := by
  cases hs : b.serves order with
  | true =>
    rw [ensure_of_serves hs] at h
    cases h
    obtain ⟨set, hset, hserves⟩ := (Option.any_eq_true _ _).mp hs
    rw [Bool.and_eq_true] at hserves
    exact ⟨set, hset, hserves⟩
  | false =>
    obtain ⟨layout, set, -, rfl, hmade⟩ := made_of_ensure hd hs h
    refine ⟨set, rfl, ?_, ?_⟩ <;> rw [hmade.order]
    · exact Context.compatible_self _
    · simp [Order.isServedBy]

/-- What goes with two live contexts belongs to none. -/
theorem eq_uninitialized_of_compatible {c c₁ c₂ : Context} (h₁ : c.compatible c₁ = true)
    (h₂ : c.compatible c₂ = true) (hl₁ : c₁.isLive = true) (hl₂ : c₂.isLive = true)
    (hne : c₁ ≠ c₂) : c = .uninitialized := by
  cases c with
  | uninitialized => rfl
  | live n =>
    have he₁ := (Context.compatible_iff_of_isLive rfl hl₁).mp h₁
    have he₂ := (Context.compatible_iff_of_isLive rfl hl₂).mp h₂
    exact absurd (he₁.symm.trans he₂) hne

/-- Two sets that were ensured for different live contexts, one after the other. The later one is
newly made, unless the earlier one was ordered before a context was reported. Exactly then the
earlier one may be kept, and it is if it is still there and has the size and the samples. -/
theorem renewed_of_ensure (hd : d.Reachable)
    (hbefore : ReflTransGen Passes (uninitialized, d) (b, d'))
    (h₁ : b.ensure order₁ caps₁ d' = (.ok (), b₁, d₁))
    (hbetween : ReflTransGen Passes (b₁, d₁) (b', e))
    (h₂ : b'.ensure order₂ caps₂ e = (.ok (), b₂, d₂))
    (hl₁ : order₁.owner.isLive = true) (hl₂ : order₂.owner.isLive = true)
    (hne : order₁.owner ≠ order₂.owner) :
    ∃ set₁ set₂, b₁.set? = some set₁ ∧ b₂.set? = some set₂ ∧
      (set₁.order.owner.isLive = true → d₁.driver.objects.issued < set₂.texture.name) ∧
      (set₂.texture ≠ set₁.texture ↔ d₁.driver.objects.issued < set₂.texture.name) ∧
      (set₂.texture = set₁.texture ↔ set₁.order.owner = .uninitialized ∧
        b'.set? = some set₁ ∧ order₂.isServedBy set₁.order = true) := by
  have hstart : Recorded (uninitialized, d) := ⟨hd.regular, nofun⟩
  have hrecorded := (follows_of_passes hbefore hstart).1
  obtain ⟨hrecorded₁, -⟩ := hrecorded.ensure h₁
  obtain ⟨hrecorded', hfollows'⟩ := follows_of_passes hbetween hrecorded₁
  obtain ⟨hrecorded₂, hfollows₂⟩ := hrecorded'.ensure h₂
  obtain ⟨set₁, hset₁, howner₁, -⟩ := set?_of_ensure_ok hrecorded.regular h₁
  obtain ⟨set₂, hset₂, howner₂, hserves₂⟩ := set?_of_ensure_ok hrecorded'.regular h₂
  -- a set of the same texture is the set itself, and it was there all the time
  have hsame (h : ¬ d₁.driver.objects.issued < set₂.texture.name) :
      set₂ = set₁ ∧ b'.set? = some set₁ := by
    rcases hfollows₂.set set₂ hset₂ with hold | hnew
    · rcases hfollows'.set set₂ hold with hold₁ | hnew
      · obtain rfl : set₂ = set₁ := Option.some.inj (hold₁.symm.trans hset₁)
        exact ⟨rfl, hold⟩
      · exact absurd hnew h
    · exact absurd (Nat.lt_of_le_of_lt hfollows'.issued_le hnew) h
  have hknown : set₁.texture.name ≤ d₁.driver.objects.issued := hrecorded₁.texture_le set₁ hset₁
  have hrenewed : set₂.texture ≠ set₁.texture ↔
      d₁.driver.objects.issued < set₂.texture.name := by
    constructor
    · intro hdiffers
      by_contra hold
      exact hdiffers (congrArg _ (hsame hold).1)
    · intro hnew heq
      rw [heq] at hnew
      omega
  have hkept : set₂.texture = set₁.texture → set₁.order.owner = .uninitialized ∧
      b'.set? = some set₁ ∧ order₂.isServedBy set₁.order = true := by
    intro heq
    obtain ⟨rfl, hthere⟩ := hsame fun hnew => hrenewed.mpr hnew heq
    exact ⟨eq_uninitialized_of_compatible howner₁ howner₂ hl₁ hl₂ hne, hthere, hserves₂⟩
  refine ⟨set₁, set₂, hset₁, hset₂, fun hlive => ?_, hrenewed, hkept, ?_⟩
  · refine hrenewed.mp fun heq => ?_
    rw [(hkept heq).1] at hlive
    cases hlive
  · rintro ⟨howner, hthere, hserves⟩
    have hs : b'.serves order₂ = true := by
      rw [serves, hthere]
      simp [howner, Context.compatible, hserves]
    rw [ensure_of_serves hs] at h₂
    cases h₂
    rw [hthere] at hset₂
    cases hset₂
    rfl

/-- What ordering a 4 by 4 set for `c` on a new device comes to. -/
def ordered (c : Context) : Except Failure Unit × Backing × Device :=
  uninitialized.ensure (.ofQuality ⟨4, 4⟩ 1 c) Profile.full.capabilities (.create .full)

/-- What ordering the same set for the first context comes to then. -/
def reordered (c : Context) : Except Failure Unit × Backing × Device :=
  (ordered c).2.1.ensure (.ofQuality ⟨4, 4⟩ 1 (.live 1)) Profile.full.capabilities (ordered c).2.2

/-- What ordering it for the next context comes to, after the first one was lost. -/
def reorderedAfterLoss (c : Context) : Except Failure Unit × Backing × Device :=
  (reordered c).2.1.ensure (.ofQuality ⟨4, 4⟩ 1 (.live 2)) Profile.full.capabilities
    ((reordered c).2.2.undergo .loseContext)

/-- Ordered before the first report, a set goes on to serve two contexts, and in the second one
none of its objects is left. Ordered for the first context, it is made anew in the second. -/
theorem renewed_of_ensure_after_loss :
    ((reorderedAfterLoss .uninitialized).1 = .ok () ∧
        (reorderedAfterLoss .uninitialized).2.1.texture? =
          (reordered .uninitialized).2.1.texture? ∧
        (reorderedAfterLoss .uninitialized).2.2.driver.objects.count = 0) ∧
      ((reorderedAfterLoss (.live 1)).1 = .ok () ∧
        (reorderedAfterLoss (.live 1)).2.1.texture? ≠ (reordered (.live 1)).2.1.texture?) := by
  have hrest (r : Except Failure Unit × Backing × Device) : r = (r.1, r.2.1, r.2.2) := rfl
  have hok (r : Except Failure Unit × Backing × Device) (h : r.1 = .ok ()) :
      r = (.ok (), r.2.1, r.2.2) := Prod.ext h rfl
  have hfirst : (reordered .uninitialized).1 = .ok () ∧
      (reordered .uninitialized).2.1.set?.map (·.order) =
        some (.ofQuality ⟨4, 4⟩ 1 .uninitialized) ∧
      (reorderedAfterLoss .uninitialized).1 = .ok () ∧
      (reorderedAfterLoss .uninitialized).2.2.driver.objects.count = 0 := by
    decide +kernel
  have hsecond : (reordered (.live 1)).1 = .ok () ∧
      (reordered (.live 1)).2.1.set?.map (·.order) = some (.ofQuality ⟨4, 4⟩ 1 (.live 1)) ∧
      (reorderedAfterLoss (.live 1)).1 = .ok () := by
    decide +kernel
  refine ⟨⟨hfirst.2.2.1, ?_, hfirst.2.2.2⟩, hsecond.2.2, ?_⟩
  · obtain ⟨hok₁, horder, hok₂, -⟩ := hfirst
    obtain ⟨set₁, set₂, hset₁, hset₂, -, -, hkept⟩ := renewed_of_ensure (.create .full)
      (.single (.ensure (hrest (ordered .uninitialized)))) (hok (reordered .uninitialized) hok₁)
      (.single (.undergo _ _ .loseContext)) (hok (reorderedAfterLoss .uninitialized) hok₂)
      rfl rfl (by decide)
    rw [hset₁, Option.map_some, Option.some.injEq] at horder
    have hsame : set₂.texture = set₁.texture :=
      hkept.mpr ⟨by rw [horder]; rfl, hset₁, by rw [horder]; rfl⟩
    rw [texture?, texture?, hset₁, hset₂, Option.map_some, Option.map_some, hsame]
  · obtain ⟨hok₁, horder, hok₂⟩ := hsecond
    obtain ⟨set₁, set₂, hset₁, hset₂, hrenewed, hdiffers, -⟩ := renewed_of_ensure (.create .full)
      (.single (.ensure (hrest (ordered (.live 1))))) (hok (reordered (.live 1)) hok₁)
      (.single (.undergo _ _ .loseContext)) (hok (reorderedAfterLoss (.live 1)) hok₂)
      rfl rfl (by decide)
    rw [hset₁, Option.map_some, Option.some.injEq] at horder
    rw [texture?, texture?, hset₁, hset₂, Option.map_some, Option.map_some, Ne,
      Option.some.injEq]
    exact hdiffers.mpr (hrenewed (by rw [horder]; rfl))

end Backing

end Compositor
