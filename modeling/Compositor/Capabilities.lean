import Compositor.Driver.Basic
import Compositor.Text.Blank

/-!
# Capabilities

What a driver lets the compositor use, found by asking it. Extensions belong to a context, so the
question is put again whenever the context is a new one.
-/

namespace Compositor

structure Capabilities where
  /-- Multisample storage and framebuffer copies are there. -/
  extendedProfile : Bool
  multisample : Bool
  /-- Depth and stencil may share a store. -/
  packedDepthStencil : Bool
  nonPowerOfTwo : Bool
  /-- The largest sample count, one without multisampling. -/
  maxSamples : Nat
deriving DecidableEq, Repr

namespace Capabilities

/-- What is assumed before a driver was asked. -/
def none : Capabilities := ⟨false, false, false, false, 1⟩

instance : Inhabited Capabilities where
  default := none

/-- Whether sets of several samples can be made. -/
def canMultisample (c : Capabilities) : Bool := c.extendedProfile && c.multisample

end Capabilities

/-- The capabilities of a driver of the given profile. An extension is there if one of the words of
the extension text contains its name. -/
def Profile.capabilities (p : Profile) : Capabilities :=
  let words := Text.words p.extensions.toList
  let has (name : String) : Bool := words.any (Text.occursIn name.toList)
  let multisample := p.extended && has "framebuffer_multisample"
  { extendedProfile := p.extended
    multisample := multisample
    packedDepthStencil := has "packed_depth_stencil"
    nonPowerOfTwo := has "texture_non_power_of_two"
    maxSamples := if multisample then p.sampleLimit else 1 }

/-- The effective sample count of an antialiasing quality: one, or the largest even number up to the
quality. -/
def effectiveSamples (quality : Nat) : Nat := if quality ≤ 1 then 1 else 2 * (quality / 2)

end Compositor
