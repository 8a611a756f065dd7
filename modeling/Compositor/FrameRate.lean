import Compositor.Numeric.Binary

/-!
# Frame rates

Which numbers can be frame rates, and how many refreshes of the display a frame is shown for.
-/

namespace Compositor.FrameRate

open Numeric

/-- Whether a number can be a frame rate: it is finite and above zero. -/
def isValid (rate : Single) : Bool := rate.isFinite && (0 : Single).lt rate

/-- Whether a rate is above `limit` frames a second. -/
def exceeds (rate : Single) (limit : Nat) : Bool := (Binary.ofNat limit : Single).lt rate

/-- Whether frames come faster than the display refreshes, so that none waits for it. -/
def isUnsynchronized (rate : Single) : Bool := exceeds rate 60

/-- The swap interval of a rate: no waiting above 60 frames a second, each refresh above 30, every
second one otherwise. -/
def swapInterval (rate : Single) : Nat :=
  if isUnsynchronized rate then 0 else if exceeds rate 30 then 1 else 2

/-- Whether one of two rates needs a synchronized drawable and the other does not. -/
def changesDrawable (old new : Single) : Bool := isUnsynchronized old != isUnsynchronized new

end Compositor.FrameRate
