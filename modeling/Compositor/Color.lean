import Compositor.Numeric.Binary

/-!
# Colours

Colours as the application gives them, with a number between zero and one per channel, and as images
hold them, with a byte per channel.
-/

namespace Compositor

open Numeric

/-- One value for each channel of a colour. -/
@[ext] structure Channels (α : Type) where
  r : α
  g : α
  b : α
  a : α
deriving DecidableEq, Repr

namespace Channels

/-- The same value in all channels. -/
def all {α : Type} (v : α) : Channels α := ⟨v, v, v, v⟩

/-- A function applied to each channel. -/
def map {α β : Type} (f : α → β) (c : Channels α) : Channels β := ⟨f c.r, f c.g, f c.b, f c.a⟩

/-- The channels from red to alpha. -/
def toList {α : Type} (c : Channels α) : List α := [c.r, c.g, c.b, c.a]

/-- Takes each channel from `new` where the mask lets it through, and from `old` elsewhere. -/
def masked {α : Type} (mask : Channels Bool) (new old : Channels α) : Channels α :=
  ⟨if mask.r then new.r else old.r, if mask.g then new.g else old.g,
   if mask.b then new.b else old.b, if mask.a then new.a else old.a⟩

theorem masked_all_true {α : Type} (new old : Channels α) : masked (all true) new old = new := rfl

theorem masked_all_false {α : Type} (new old : Channels α) : masked (all false) new old = old := rfl

end Channels

/-- A colour whose channels are meant to lie between zero and one, alpha not multiplied in. -/
abbrev Rgba := Channels Single

/-- The colour of a pixel as an image stores it. -/
abbrev Pixel := Channels UInt8

/-- Which channels may be written. -/
abbrev ColorMask := Channels Bool

/-- A channel limited to the range from zero to one; what is no number stays as it is. -/
def clampUnit (v : Single) : Single :=
  if v.lt 0 then 0 else if (Binary.ofNat 1).lt v then Binary.ofNat 1 else v

/-- A channel as a byte: limited to its range, scaled to 255 and rounded, a half going up. What is
no number gives zero. -/
def quantizeChannel (v : Single) : UInt8 :=
  UInt8.ofNat (((clampUnit v * Binary.ofNat 255).roundHalfUp?).getD 0)

namespace Rgba

def transparent : Rgba := Channels.all 0

/-- Black that covers what is behind it. -/
def opaqueBlack : Rgba := ⟨0, 0, 0, Binary.ofNat 1⟩

/-- The colour as an image stores it. -/
def quantize (c : Rgba) : Pixel := c.map quantizeChannel

end Rgba

end Compositor
