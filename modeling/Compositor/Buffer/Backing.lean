import Compositor.Buffer.Set

/-!
# The backing of a surface

A surface is backed by a buffer set or by none. `Backing.ensure` makes the set that an order asks
for: it keeps a set that serves already, deletes one that does not, and forgets one whose context
is gone, as that context took its objects with it.
-/

namespace Compositor

/-- What is bound of a buffer set, as far as its surface knows. -/
inductive Focus where
  /-- The set was not drawn to yet. -/
  | fresh
  /-- The framebuffer with several samples is the target of drawing. -/
  | multisample
  /-- The framebuffer of the colour texture is the target of drawing. -/
  | color
deriving DecidableEq, Repr

/-- What a surface is backed by. -/
inductive Backing where
  /-- No set was made yet, or it was forgotten. -/
  | uninitialized
  /-- The set was deleted, or could not be made. -/
  | destroyed
  | ready (set : BufferSet) (focus : Focus)
deriving DecidableEq, Repr

instance : Inhabited Backing where
  default := .uninitialized

namespace Backing

def set? : Backing → Option BufferSet
  | uninitialized | destroyed => none
  | ready set _ => some set

/-- Whether there is a set, so that drawing does not go straight to the display. -/
def isOffscreen (b : Backing) : Bool := b.set?.isSome

/-- The size of the images of the set; nothing without a set. -/
def size (b : Backing) : Size := ((b.set?.map (·.layout.size))).getD ⟨0, 0⟩

/-- The colour texture of the set. -/
def texture? (b : Backing) : Option TextureId := b.set?.map (·.texture)

/-- The framebuffer that counts as the screen; the display without one. -/
def screen? : Backing → Option FramebufferId
  | uninitialized | destroyed => none
  | ready set .multisample => some set.target
  | ready set _ => some set.framebuffer

/-- Notes which framebuffer of the set was bound. -/
def focusOn (b : Backing) (focus : Focus) : Backing :=
  match b with
  | uninitialized => uninitialized
  | destroyed => destroyed
  | ready set _ => ready set focus

def destroy (b : Backing) (d : Device) : Backing × Device :=
  match b with
  | uninitialized => (uninitialized, d)
  | destroyed => (destroyed, d)
  | ready set _ => (destroyed, set.delete d)

/-- Gives up a set that does not serve: it is forgotten if it belongs to another context than
`owner`, and deleted else. -/
def discard (b : Backing) (owner : Context) (d : Device) : Backing × Device :=
  match b.set? with
  | none => (b, d)
  | some set => if set.order.owner.compatible owner then b.destroy d else (uninitialized, d)

/-- Whether the set serves an order as it is. -/
def serves (b : Backing) (order : Order) : Bool :=
  b.set?.any fun set =>
    set.order.owner.compatible order.owner && order.isServedBy set.order

/-- Makes sure that there is a set for an order. After a failure there is none. -/
def ensure (b : Backing) (order : Order) (caps : Capabilities) (d : Device) :
    Except Failure Unit × Backing × Device :=
  if b.serves order then (.ok (), b, d)
  else
    let (b, d) := b.discard order.owner d
    match order.layout caps with
    | .error failure => (.error failure, b, d)
    | .ok layout =>
      match BufferSet.make order layout d with
      | (.error failure, d) => (.error failure, destroyed, d)
      | (.ok set, d) => (.ok (), ready set .fresh, d)

end Backing

end Compositor
