import Compositor.Canvas.Basic
import Compositor.Settings
import Compositor.Surface.Request

/-!
# Surfaces

A surface is a canvas with its settings. It decides whether frames are drawn offscreen,
follows the context, the size and the frame rate that it is told, and runs the frames. What it is
told may also come as events, which wait until the next update.

An update applies the waiting events, then the swap interval, then makes the buffer set if one is
needed. Nothing is made before a context was reported.
-/

namespace Compositor

open Numeric

/-- What a surface can be told from elsewhere. -/
inductive Event where
  /-- A context is current. -/
  | adoptContext (context : Context)
  /-- The surface has another size. -/
  | resized (size : Size)
  /-- Another frame rate is wanted. -/
  | frameRate (rate : Single)
  /-- The objects of the driver are to be given up; the drawable stays with its owner. -/
  | teardown
deriving DecidableEq, Repr

structure Surface where
  canvas : Canvas
  settings : Settings
  policy : Policy
  capabilities : Capabilities
  /-- The context reported last. -/
  context : Context
  size : Size
  /-- Whether frames are drawn into a buffer set. -/
  drawsOffscreen : Bool
  /-- The events that wait, the oldest first. -/
  pending : List Event
  /-- Whether the host granted a drawable. -/
  hasDrawable : Bool
  /-- Whether the drawable does not suit the frame rate any more. -/
  drawableOutdated : Bool
  frameRate : Single
  /-- Whether the driver has not been told the swap interval yet. -/
  swapIntervalDue : Bool
  /-- Whether a frame has begun and not ended. -/
  inFrame : Bool

namespace Surface

/-- A surface on a new device under a policy of its own. -/
def withPolicy (profile : Profile) (settings : Settings) (policy : Policy) : Surface where
  canvas := .create profile
  settings := settings
  policy := policy
  capabilities := .none
  context := .uninitialized
  size := ⟨0, 0⟩
  drawsOffscreen := policy.decide settings.platform settings.antialias.toNat .none
  pending := []
  hasDrawable := false
  drawableOutdated := false
  frameRate := settings.frameRate
  swapIntervalDue := true
  inFrame := false

/-- A surface on a new device under the policy of its settings, which are checked. -/
def create (profile : Profile) (settings : Settings) : Except Failure Surface :=
  settings.validate.map fun _ => withPolicy profile settings settings.policy

def driver (s : Surface) : Driver := s.canvas.device.driver

/-- What the surface wants of a buffer set. -/
def order (s : Surface) : Order := .ofQuality s.size s.settings.antialias.toNat s.context

/-- Puts another canvas under the surface, with a result along. -/
def onCanvas {α : Type} (s : Surface) (r : α × Canvas) : α × Surface :=
  (r.1, { s with canvas := r.2 })

/-! ## The drawable -/

/-- Decides about offscreen drawing and asks the host for a drawable that suits, a new one if there
is one already. -/
def openDrawable (s : Surface) (h : Host) : Except Failure DrawableRequest × Surface × Host :=
  let antialias := s.settings.antialias.toNat
  let drawsOffscreen := s.policy.decide s.settings.platform antialias s.capabilities
  let s := { s with drawsOffscreen := drawsOffscreen }
  let request := DrawableRequest.ofNeed antialias drawsOffscreen
  match h.provide s.hasDrawable request with
  | (.error failure, h) => (.error failure, s, h)
  | (.ok (), h) => (.ok request, { s with hasDrawable := true, drawableOutdated := false }, h)

/-- Gives the objects of the driver up. -/
def release (s : Surface) : Surface :=
  { s with canvas := (s.canvas.releasePrograms s.context).destroy }

/-- Gives the objects of the driver and the drawable up. -/
def tearDown (s : Surface) (h : Host) : Surface × Host :=
  ({ s.release with hasDrawable := false }, h.tearDown)

/-! ## Following changes -/

/-- A context is current. A set of another context is forgotten; a report of the context that was
current already keeps it. -/
def adoptContext (s : Surface) (context : Context) : Surface :=
  { s with
    canvas := if s.context.coincides context then s.canvas else s.canvas.invalidate
    context := context
    capabilities := s.driver.profile.capabilities
    swapIntervalDue := true }

def resize (s : Surface) (size : Size) : Surface :=
  { s with canvas := s.canvas.destroy, size := size }

/-- Tells the driver the swap interval. -/
def applySwapInterval (s : Surface) : Surface :=
  { s with
    canvas := s.canvas.performAll [.swapInterval (FrameRate.swapInterval s.frameRate)]
    swapIntervalDue := false }

def setFrameRate (s : Surface) (rate : Single) : Except Failure Unit × Surface :=
  if FrameRate.isValid rate then
    let s : Surface :=
      { s with
        drawableOutdated := s.drawableOutdated || FrameRate.changesDrawable s.frameRate rate
        frameRate := rate }
    (.ok (), if s.context.isLive then s.applySwapInterval else { s with swapIntervalDue := true })
  else
    (.error (.config
      ("frame rate must be a positive number, got " ++ DecimalStyle.plain.render rate)), s)

/-- Applies an event. A frame rate that is none is passed over. -/
def apply (s : Surface) : Event → Surface
  | .adoptContext context => s.adoptContext context
  | .resized size => s.resize size
  | .frameRate rate => (s.setFrameRate rate).2
  | .teardown => s.release

/-- Leaves an event for the next update, and says whether there is still a surface to receive it. -/
def send (s : Option Surface) (event : Event) : Bool × Option Surface :=
  (s.isSome, s.map fun s => { s with pending := s.pending ++ [event] })

/-- Applies the waiting events from the oldest on. -/
def drain (s : Surface) : Surface := { s.pending.foldl apply s with pending := [] }

/-- Applies the waiting events and the swap interval, and makes the buffer set if one is needed. -/
def update (s : Surface) : Except Failure Unit × Surface :=
  let s := s.drain
  let s := if s.swapIntervalDue && s.context.isLive then s.applySwapInterval else s
  if s.drawsOffscreen && s.context.isLive && !s.size.isEmpty then
    s.onCanvas (s.canvas.ensure s.order s.capabilities)
  else (.ok (), s)

/-! ## Frames -/

def beginFrame (s : Surface) : Except Failure Unit × Surface :=
  match s.update with
  | (.error failure, s) => (.error failure, s)
  | (.ok (), s) => (.ok (), { s with canvas := s.canvas.beginFrame, inFrame := true })

def endFrame (s : Surface) : Surface :=
  { s with canvas := s.canvas.endFrame s.size s.context, inFrame := false }

/-- Runs a frame; nothing is drawn if it cannot begin. -/
def frame {α : Type} (s : Surface) (draw : Surface → α × Surface) : Except Failure α × Surface :=
  match s.beginFrame with
  | (.error failure, s) => (.error failure, s)
  | (.ok (), s) =>
    let (result, s) := draw s
    (.ok result, s.endFrame)

/-- Fills a region with a colour, and says whether that was done. -/
def fill (s : Surface) (color : Rgba) (region : Rect) : Bool × Surface :=
  s.onCanvas (s.canvas.fill s.context s.size color region)

/-- Draws a texture, and says whether that was done. -/
def drawTexture (s : Surface) (patch : TexturePatch) : Bool × Surface :=
  s.onCanvas (s.canvas.drawTexture s.context s.size patch)

/-- Makes the colour drawn so far readable. -/
def readback (s : Surface) : Option FramebufferId × Surface :=
  s.onCanvas s.canvas.readback

/-- The colour of a pixel of what is read from, rows counted from the top. -/
def sampleColor (s : Surface) (x y : Nat) : Option Pixel × Surface :=
  s.onCanvas (s.canvas.sampleColor s.size x y)

/-- The depth of a pixel of what is read from, rows counted from the top. -/
def sampleDepth (s : Surface) (x y : Nat) : Option Single × Surface :=
  s.onCanvas (s.canvas.sampleDepth s.size x y)

/-- The stencil value of a pixel of what is read from, rows counted from the top. -/
def sampleStencil (s : Surface) (x y : Nat) : Option UInt8 × Surface :=
  s.onCanvas (s.canvas.sampleStencil s.size x y)

end Surface

end Compositor
