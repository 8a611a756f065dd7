import Compositor.Surface.Basic

/-!
# Runs of frames

What is known after a number of empty frames on a surface of a new device.
-/

namespace Compositor

namespace Surface

/-- Runs empty frames until one cannot begin. -/
def frames (s : Surface) : Nat → Except Failure Unit × Surface
  | 0 => (.ok (), s)
  | n + 1 =>
    match s.frame fun s => ((), s) with
    | (.error failure, s) => (.error failure, s)
    | (.ok (), s) => s.frames n

end Surface

/-- What is known after a run of frames. -/
structure FramesReport where
  /-- What the host was asked for. -/
  request : DrawableRequest
  /-- Whether there is a buffer set. -/
  offscreen : Bool
  size : Size
  resolves : Nat
  presents : Nat
  skippedDraws : Nat
  bufferAllocations : Nat
  programLinks : Nat
deriving DecidableEq, Repr

namespace FramesReport

/-- The report of a surface that was granted a request. -/
def ofSurface (request : DrawableRequest) (s : Surface) : FramesReport where
  request := request
  offscreen := s.canvas.backing.isOffscreen
  size := s.canvas.backing.size
  resolves := s.canvas.statistics.resolves
  presents := s.canvas.statistics.presents
  skippedDraws := s.canvas.statistics.skipped
  bufferAllocations := s.driver.statistics.bufferAllocations
  programLinks := s.driver.statistics.links

/-- Runs `count` frames on a new surface: it is given a drawable, then the context, then its size.
-/
def run (profile : Profile) (settings : Settings) (size : Size) (count : Nat) :
    Except Failure FramesReport := do
  let surface ← Surface.create profile settings
  match surface.openDrawable .idle with
  | (.error failure, _) => .error failure
  | (.ok request, surface, _) =>
    match ((surface.adoptContext surface.driver.context).resize size).frames count with
    | (.error failure, _) => .error failure
    | (.ok (), surface) => .ok (ofSurface request surface)

def toJson (r : FramesReport) : Json.Value :=
  .object
    [("request", r.request.toJson.sortMembers),
     ("offscreen", .bool r.offscreen),
     ("fbo_size", .list [.ofNat r.size.width, .ofNat r.size.height]),
     ("resolves", .ofNat r.resolves),
     ("presents", .ofNat r.presents),
     ("skipped_draws", .ofNat r.skippedDraws),
     ("buffer_allocations", .ofNat r.bufferAllocations),
     ("program_links", .ofNat r.programLinks)]

end FramesReport

def Capabilities.toJson (c : Capabilities) : Json.Value :=
  .object
    [("extended_profile", .bool c.extendedProfile),
     ("multisample_supported", .bool c.multisample),
     ("packed_depth_stencil_supported", .bool c.packedDepthStencil),
     ("non_power_of_two_supported", .bool c.nonPowerOfTwo),
     ("max_samples", .ofNat c.maxSamples)]

end Compositor
