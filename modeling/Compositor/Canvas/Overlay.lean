import Compositor.Program.Cache

/-!
# Overlays

The calls that fill a rectangle or draw a texture over what is there. Regions are in pixels of the
surface, rows counted from the bottom. Depth plays no part in them: its test and its writes are
switched off for the calls and put back after them.
-/

namespace Compositor

open Numeric

namespace Rect

/-- The corners in the order of a strip of two triangles. -/
def corners (r : Rect) : List (Int × Int) :=
  [(r.x0, r.y0), (r.x1, r.y0), (r.x0, r.y1), (r.x1, r.y1)]

/-- The positions of the corners on a surface of the given size. -/
def positions (r : Rect) (surface : Size) : List (Single × Single) :=
  r.corners.map fun (x, y) =>
    (normalized (Binary.ofInt x) surface.width, normalized (Binary.ofInt y) surface.height)

end Rect

/-- A region of a texture that is drawn onto a region of the surface. -/
structure TexturePatch where
  texture : TextureId
  target : TextureTarget
  textureSize : Size
  /-- The region of the texture, in texels. -/
  source : Rect
  region : Rect
deriving DecidableEq, Repr

namespace TexturePatch

/-- The corner of a texture, of the size of the surface region that it is drawn onto. -/
def corner (texture : TextureId) (textureSize : Size) (width height : Nat) : TexturePatch :=
  ⟨texture, .texture2d, textureSize, .ofSize width height, .ofSize width height⟩

/-- The texture coordinates of the corners: fractions of the texture, or texels for a rectangle
texture. -/
def coordinates (q : TexturePatch) : List (Single × Single) :=
  q.source.corners.map fun (x, y) =>
    match q.target with
    | .texture2d =>
      (Binary.ofInt x / Binary.ofNat q.textureSize.width,
        Binary.ofInt y / Binary.ofNat q.textureSize.height)
    | .rectangle => (Binary.ofInt x, Binary.ofInt y)

/-- For each corner its position on the surface and its texture coordinates. -/
def vertices (q : TexturePatch) (surface : Size) : List Single :=
  let corner (p t : Single × Single) : List Single := [p.1, p.2, t.1, t.2]
  (List.zipWith corner (q.region.positions surface) q.coordinates).flatten

end TexturePatch

namespace BuiltProgram

/-- The calls that fill a region with a colour, if the program has what they need. -/
def fillingCalls? (p : BuiltProgram) (surface : Size) (color : Rgba) (region : Rect) :
    Option (List Call) := do
  let position ← p.position
  let location ← p.color
  let data := (region.positions surface).flatMap fun (x, y) => [x, y]
  some
    [.useProgram (some p.program), .uniformColor location color,
      .drawStrip [⟨position, 2, 2, 0, data⟩] 4, .useProgram none]

/-- The calls that draw a texture, if the program has what they need. -/
def texturingCalls? (p : BuiltProgram) (surface : Size) (patch : TexturePatch) :
    Option (List Call) := do
  let position ← p.position
  let coordinate ← p.coordinate
  let data := patch.vertices surface
  some
    ([.useProgram (some p.program)] ++ (p.sampler.map (Call.uniformInt · 0)).toList ++
      [.activeTexture 0, .bindTexture patch.target (some patch.texture),
        .drawStrip [⟨position, 2, 4, 0, data⟩, ⟨coordinate, 2, 4, 2, data⟩] 4,
        .bindTexture patch.target none, .useProgram none])

end BuiltProgram

/-- Performs calls with the depth test and depth writes switched off, and puts both back. -/
def Device.overlay (d : Device) (calls : List Call) : Device :=
  let before := d.driver.pipeline
  d.performAll
    ([.switch .depthTest false, .depthMask false] ++ calls ++
      (if before.depthTest then [.switch .depthTest true] else []) ++ [.depthMask before.depthMask])

end Compositor
