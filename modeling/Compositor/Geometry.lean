import Compositor.Numeric.Binary

/-!
# Sizes, rectangles and coordinates

The pixel geometry of a surface. Rows are counted from the bottom, as the driver does; only readback
takes rows counted from the top.
-/

namespace Compositor

open Numeric

structure Size where
  width : Nat
  height : Nat
deriving DecidableEq, Repr, Inhabited

namespace Size

/-- Whether the size covers no pixel. -/
def isEmpty (s : Size) : Bool := s.width = 0 || s.height = 0

/-- Whether the pixel `(x, y)` lies inside. -/
def contains (s : Size) (x y : Nat) : Bool := x < s.width && y < s.height

end Size

/-- The largest coordinate of a rectangle. -/
def coordinateMax : Nat := 2 ^ (31 : Nat) - 1

/-- A rectangle of pixels: `x0` and `y0` are inside, `x1` and `y1` just outside. -/
structure Rect where
  x0 : Int
  y0 : Int
  x1 : Int
  y1 : Int
deriving DecidableEq, Repr, Inhabited

namespace Rect

/-- The rectangle from the origin that covers a size, as far as coordinates reach. -/
def ofSize (width height : Nat) : Rect :=
  ⟨0, 0, (min width coordinateMax : Nat), (min height coordinateMax : Nat)⟩

/-- The extent along a row, negative for a flipped rectangle. -/
def width (r : Rect) : Int := r.x1 - r.x0

/-- The extent along a column, negative for a flipped rectangle. -/
def height (r : Rect) : Int := r.y1 - r.y0

/-- Whether the rectangle has no area. -/
def isDegenerate (r : Rect) : Bool := r.width = 0 || r.height = 0

end Rect

/-- The row counted from the bottom of what is row `y` from the top, if there is one. -/
def flipRow? (height y : Nat) : Option Nat :=
  if y < height then some (height - 1 - y) else none

/-- The least power of two that is at least `n`, if it is below `2 ^ 32`. -/
def nextPowerOfTwo? (n : Nat) : Option Nat :=
  let power := if n ≤ 1 then 1 else 2 ^ ((n - 1).log2 + 1)
  if power < UInt32.size then some power else none

/-- A pixel coordinate as a position between `-1` and `1` along `extent` pixels. -/
def normalized (v : Single) (extent : Nat) : Single :=
  if extent = 0 then Binary.ofInt (-1)
  else Binary.ofNat 2 * v / Binary.ofNat extent - Binary.ofNat 1

end Compositor
