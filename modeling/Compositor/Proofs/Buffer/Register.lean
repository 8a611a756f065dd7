import Compositor.Proofs.Buffer.Ensuring

/-!
# The register of a buffer set

A backing is one value, of which some have a set. A register notes the same in two fields, the set
and the phase that it is in, and each operation writes them one by one: it may leave early, between
the two, or without having written either. That a set is noted just when the phase says so is
nothing that its type tells.

Each operation of a backing is matched by one of the register that does the same to the device and
leaves the fields of what the backing becomes. So no exit of them writes one field alone.
-/

namespace Compositor

/-- The phases in the life of a buffer set. -/
inductive Phase where
  | uninitialized
  | created
  | boundMultisample
  | boundColor
  | destroyed
deriving DecidableEq, Repr

/-- What is noted of a buffer set: whether there is one, and the phase that it is in. -/
structure Register where
  set? : Option BufferSet
  phase : Phase
deriving DecidableEq, Repr

namespace Register

/-- Nothing was made yet. -/
def start : Register := ⟨none, .uninitialized⟩

/-! ## What is read off the fields -/

/-- The size of the images of the set; nothing without a set. -/
def size (r : Register) : Size := ((r.set?.map (·.layout.size))).getD ⟨0, 0⟩

/-- The colour texture of the set. -/
def texture? (r : Register) : Option TextureId := r.set?.map (·.texture)

/-- The framebuffer that counts as the screen. Without a set that is the display, whatever the
phase. -/
def screen? (r : Register) : Option FramebufferId :=
  r.set?.map fun set =>
    match r.phase with
    | .boundMultisample => set.target
    | _ => set.framebuffer

/-! ## What writes them -/

/-- Notes which framebuffer was bound, if there is a set. -/
def markBound (r : Register) (multisample : Bool) : Register :=
  if r.set?.isSome then
    { r with phase := if multisample then .boundMultisample else .boundColor }
  else r

/-- Forgets the set. -/
def invalidate (r : Register) : Register :=
  let r := { r with set? := none }
  { r with phase := .uninitialized }

/-- Takes the set out and deletes it. Without a set the phase stays. -/
def destroy (r : Register) (d : Device) : Register × Device :=
  match r.set? with
  | none => (r, d)
  | some set =>
    let r := { r with set? := none }
    let d := set.delete d
    ({ r with phase := .destroyed }, d)

/-- Makes a set. Where there is no layout neither field is written. -/
def make (r : Register) (order : Order) (caps : Capabilities) (d : Device) :
    Except Failure Unit × Register × Device :=
  match order.layout caps with
  | .error failure => (.error failure, r, d)
  | .ok layout =>
    match BufferSet.make order layout d with
    | (.error failure, d) => (.error failure, { r with phase := .destroyed }, d)
    | (.ok set, d) =>
      let r := { r with set? := some set }
      (.ok (), { r with phase := .created }, d)

/-- Makes sure that there is a set for an order. A set of another context is forgotten, one that
serves is kept, and any other is deleted. -/
def ensure (r : Register) (order : Order) (caps : Capabilities) (d : Device) :
    Except Failure Unit × Register × Device :=
  match r.set? with
  | none => r.make order caps d
  | some set =>
    if set.order.owner.compatible order.owner then
      if order.isServedBy set.order then (.ok (), r, d)
      else (r.destroy d).1.make order caps (r.destroy d).2
    else r.invalidate.make order caps d

end Register

/-! ## The register of a backing -/

namespace Backing

/-- The phase of the set of a backing. -/
def phase : Backing → Phase
  | uninitialized => .uninitialized
  | destroyed => .destroyed
  | ready _ .fresh => .created
  | ready _ .multisample => .boundMultisample
  | ready _ .color => .boundColor

/-- What a register would have noted. -/
def register (b : Backing) : Register := ⟨b.set?, b.phase⟩

/-- The framebuffer that counts as the screen is read off the two fields as well. -/
theorem screen?_register (b : Backing) : b.register.screen? = b.screen? := by
  cases b with
  | ready set focus => cases focus <;> rfl
  | _ => rfl

theorem markBound_register (b : Backing) (multisample : Bool) :
    b.register.markBound multisample =
      (b.focusOn (if multisample then .multisample else .color)).register := by
  cases b with
  | ready set focus => cases multisample <;> rfl
  | _ => rfl

theorem invalidate_register (b : Backing) :
    b.register.invalidate = uninitialized.register := rfl

theorem destroy_register (b : Backing) (d : Device) :
    b.register.destroy d = ((b.destroy d).1.register, (b.destroy d).2) := by
  cases b <;> rfl

variable {b : Backing} {order : Order} {caps : Capabilities} {d : Device}

/-- Where there is no set, one is made. -/
theorem make_register (h : b.set? = none) :
    b.register.make order caps d =
      ((b.ensure order caps d).1, (b.ensure order caps d).2.1.register,
        (b.ensure order caps d).2.2) := by
  have hserves : b.serves order = false := by
    rw [serves, h]
    rfl
  rw [ensure_of_not_serves hserves, discard_of_none h, Register.make]
  cases order.layout caps with
  | error failure => rfl
  | ok layout =>
    dsimp only
    rcases BufferSet.make order layout d with ⟨failure | set, e⟩
    · show (_, (⟨b.set?, .destroyed⟩ : Register), e) = _
      rw [h]
      rfl
    · rfl

/-- Every exit of `ensure` leaves the two fields of the backing that comes out, with the same
outcome and the same device. -/
theorem ensure_register (b : Backing) (order : Order) (caps : Capabilities) (d : Device) :
    b.register.ensure order caps d =
      ((b.ensure order caps d).1, (b.ensure order caps d).2.1.register,
        (b.ensure order caps d).2.2) := by
  have hfields : b.register.set? = b.set? := rfl
  rw [Register.ensure, hfields]
  cases hset : b.set? with
  | none => exact make_register hset
  | some set =>
    dsimp only
    have hserves : b.serves order =
        (set.order.owner.compatible order.owner && order.isServedBy set.order) := by
      rw [serves, hset]
      rfl
    cases hc : set.order.owner.compatible order.owner with
    | false =>
      have hdiscard : b.discard order.owner d = (uninitialized, d) := by
        simp only [discard, hset, hc, Bool.false_eq_true, if_false]
      rw [if_neg Bool.false_ne_true, ensure_discard (by rw [hserves, hc]; rfl), hdiscard,
        invalidate_register]
      exact make_register rfl
    | true =>
      rw [if_pos rfl]
      cases hs : order.isServedBy set.order with
      | true =>
        rw [if_pos rfl, ensure_of_serves (by rw [hserves, hc, hs]; rfl)]
      | false =>
        have hdiscard : b.discard order.owner d = b.destroy d := by
          simp only [discard, hset, hc, if_true]
        rw [if_neg Bool.false_ne_true, ensure_discard (by rw [hserves, hc, hs]; rfl), hdiscard,
          destroy_register]
        exact make_register (b.set?_destroy d)

end Backing

end Compositor
