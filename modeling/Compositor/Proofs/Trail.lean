/-!
# Trails

The steps of a run, each with the state in which it is taken. What happens in a run, and how often,
is said of its trail.
-/

namespace Compositor

variable {σ α : Type} {next : σ → α → σ}

/-- The steps of a run from a state, each with the state in which it is taken. -/
def trail (next : σ → α → σ) : σ → List α → List (σ × α)
  | _, [] => []
  | s, a :: rest => (s, a) :: trail next (next s a) rest

theorem map_snd_trail (next : σ → α → σ) (s : σ) (l : List α) :
    (trail next s l).map Prod.snd = l := by
  induction l generalizing s with
  | nil => rfl
  | cons a l ih => rw [trail, List.map_cons, ih]

/-- What every step keeps holds wherever a step of a run is taken. -/
theorem forall_mem_trail {P : σ → Prop} (keep : ∀ s a, P s → P (next s a)) {s : σ} (h : P s)
    (l : List α) : ∀ e ∈ trail next s l, P e.1 := by
  induction l generalizing s with
  | nil => exact nofun
  | cons a l ih => exact List.forall_mem_cons.mpr ⟨h, ih (keep s a h)⟩

/-- What every step of a run keeps holds at its end. -/
theorem foldl_of_trail {P : σ → Prop} {Q : σ × α → Prop}
    (keep : ∀ s a, Q (s, a) → P s → P (next s a)) {s : σ} (h : P s) {l : List α}
    (hl : ∀ e ∈ trail next s l, Q e) : P (l.foldl next s) := by
  induction l generalizing s with
  | nil => exact h
  | cons a l ih =>
    obtain ⟨ha, hrest⟩ := List.forall_mem_cons.mp hl
    exact ih (keep s a ha h) hrest

/-- What goes up by one exactly with certain steps counts these steps. -/
theorem count_trail {P : σ → Prop} (keep : ∀ s a, P s → P (next s a)) {f : σ → Nat}
    {p : σ × α → Bool} (step : ∀ s a, P s → f (next s a) = f s + (p (s, a)).toNat) {s : σ} (h : P s)
    (l : List α) : f (l.foldl next s) = f s + (trail next s l).countP p := by
  induction l generalizing s with
  | nil => rfl
  | cons a l ih =>
    have hcons : (trail next s (a :: l)).countP p =
        (trail next (next s a) l).countP p + (p (s, a)).toNat := by
      rw [trail, List.countP_cons]
      cases p (s, a) <;> rfl
    rw [List.foldl_cons, ih (keep s a h), step s a h, hcons]
    omega

end Compositor
