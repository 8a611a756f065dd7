import Compositor.Capabilities
import Compositor.Context
import Compositor.Failure
import Compositor.Geometry

/-!
# Orders for buffer sets

What a surface wants of a buffer set, and the layout that the capabilities of a driver allow for it.
-/

namespace Compositor

/-- What is wanted of a buffer set. -/
structure Order where
  size : Size
  /-- The effective sample count. -/
  samples : Nat
  /-- The context in which the set is to be used. -/
  owner : Context
deriving DecidableEq, Repr

/-- How the images of a buffer set are laid out. -/
structure Layout where
  size : Size
  /-- The sample count, one for a set without multisampling. -/
  samples : Nat
  /-- Whether depth and stencil share a store; otherwise there are no stencil values. -/
  packed : Bool
deriving DecidableEq, Repr

/-- Whether the layout has a multisampled image to draw to. -/
def Layout.isMultisample (l : Layout) : Bool := 1 < l.samples

/-- The sample count that can be had for the one wanted. -/
def Capabilities.limitSamples (caps : Capabilities) (samples : Nat) : Nat :=
  if caps.maxSamples < samples then effectiveSamples caps.maxSamples else samples

/-- The least image size that covers `size`: exact where images may have any size, else the next
powers of two, if there are any. -/
def Capabilities.imageSize? (caps : Capabilities) (size : Size) : Option Size :=
  if caps.nonPowerOfTwo then some ⟨max size.width 1, max size.height 1⟩
  else do return ⟨← nextPowerOfTwo? size.width, ← nextPowerOfTwo? size.height⟩

namespace Order

/-- The order for a surface that asks for an antialiasing quality. -/
def ofQuality (size : Size) (quality : Nat) (owner : Context) : Order :=
  ⟨size, effectiveSamples quality, owner⟩

/-- Whether a set made for `old` serves the order as it is, in a context where it may be used. -/
def isServedBy (o old : Order) : Bool := old.size = o.size && old.samples = o.samples

/-- The layout for an order. The sample count is looked at before the size. -/
def layout (o : Order) (caps : Capabilities) : Except Failure Layout :=
  if 1 < o.samples && !caps.canMultisample then .error .multisampleUnsupported
  else
    match caps.imageSize? o.size with
    | none =>
      .error (.config
        (toString o.size.width ++ "x" ++ toString o.size.height
          ++ " has no power-of-two texture size"))
    | some size => .ok ⟨size, caps.limitSamples o.samples, caps.packedDepthStencil⟩

end Order

end Compositor
