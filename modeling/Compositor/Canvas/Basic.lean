import Compositor.Buffer.Backing
import Compositor.Canvas.Overlay

/-!
# Canvases

A canvas is a device with the backing that frames are drawn into and the programs that draw on it. A
frame begins by binding the framebuffer that is drawn to, and ends by showing its colour on the
display. In between, overlays are drawn and pixels are read back.
-/

namespace Compositor

open Numeric

/-- What was done on a canvas. -/
structure CanvasStatistics where
  /-- Colours brought from several samples to one. -/
  resolves : Nat
  presents : Nat
  fills : Nat
  textureDraws : Nat
  /-- Draws left out, as there was no program or nothing to draw on. -/
  skipped : Nat
deriving DecidableEq, Repr, Inhabited

structure Canvas where
  device : Device
  backing : Backing
  programs : ProgramCache
  statistics : CanvasStatistics

namespace Canvas

/-- A canvas on a new device. -/
def create (profile : Profile) : Canvas :=
  ⟨.create profile, .uninitialized, .empty, ⟨0, 0, 0, 0, 0⟩⟩

def count (c : Canvas) (f : CanvasStatistics → CanvasStatistics) : Canvas :=
  { c with statistics := f c.statistics }

def performAll (c : Canvas) (calls : List Call) : Canvas :=
  { c with device := c.device.performAll calls }

/-! ## The backing -/

/-- Makes sure that there is a buffer set for an order. -/
def ensure (c : Canvas) (order : Order) (caps : Capabilities) : Except Failure Unit × Canvas :=
  let (outcome, backing, device) := c.backing.ensure order caps c.device
  (outcome, { c with backing := backing, device := device })

def destroy (c : Canvas) : Canvas :=
  let (backing, device) := c.backing.destroy c.device
  { c with backing := backing, device := device }

/-- Forgets the buffer set, whose context is gone. -/
def invalidate (c : Canvas) : Canvas := { c with backing := .uninitialized }

/-- Deletes the programs that can be used in a context. -/
def releasePrograms (c : Canvas) (context : Context) : Canvas :=
  let (programs, device) := c.programs.release context c.device
  { c with programs := programs, device := device }

/-! ## Overlays -/

/-- The program for a purpose, built if need be. -/
def program? (c : Canvas) (purpose : Purpose) (context : Context) :
    Option BuiltProgram × Canvas :=
  let (entry, programs, device) := c.programs.entry purpose context c.device
  (entry.built?, { c with programs := programs, device := device })

def skip (c : Canvas) : Bool × Canvas :=
  (false, c.count fun s => { s with skipped := s.skipped + 1 })

/-- Draws with the program for a purpose, and says whether that could be done. -/
def draw (c : Canvas) (purpose : Purpose) (context : Context)
    (calls? : BuiltProgram → Option (List Call)) : Bool × Canvas :=
  let (built, c) := c.program? purpose context
  match built.bind calls? with
  | none => c.skip
  | some calls => (true, { c with device := c.device.overlay calls })

/-- Fills a region with a colour, and says whether that was done. -/
def fill (c : Canvas) (context : Context) (surface : Size) (color : Rgba) (region : Rect) :
    Bool × Canvas :=
  if surface.isEmpty || region.isDegenerate then c.skip
  else
    match c.draw .solid context fun p => p.fillingCalls? surface color region with
    | (false, c) => (false, c)
    | (true, c) => (true, c.count fun s => { s with fills := s.fills + 1 })

/-- Draws a texture without counting it, and says whether that was done. -/
def drawPatch (c : Canvas) (context : Context) (surface : Size) (patch : TexturePatch) :
    Bool × Canvas :=
  if surface.isEmpty || patch.textureSize.isEmpty || patch.region.isDegenerate then c.skip
  else c.draw (.textured patch.target) context fun p => p.texturingCalls? surface patch

/-- Draws a texture, and says whether that was done. -/
def drawTexture (c : Canvas) (context : Context) (surface : Size) (patch : TexturePatch) :
    Bool × Canvas :=
  match c.drawPatch context surface patch with
  | (false, c) => (false, c)
  | (true, c) => (true, c.count fun s => { s with textureDraws := s.textureDraws + 1 })

/-! ## Frames -/

/-- Binds the framebuffer that is drawn to. Without a set what is bound stays bound. -/
def beginFrame (c : Canvas) : Canvas :=
  match c.backing.set? with
  | none => c
  | some set =>
    let focus : Focus := if set.multisample.isSome then .multisample else .color
    { c.performAll [.bindFramebuffer .both (some set.target), .drawBuffer .color] with
      backing := c.backing.focusOn focus }

/-- Brings the colour of a set from several samples to one; a set of one sample stays as it is. -/
def resolve (c : Canvas) (set : BufferSet) : Canvas :=
  match set.multisample with
  | none => c
  | some m =>
    let whole := Rect.ofSize set.layout.size.width set.layout.size.height
    (c.performAll
      [.bindFramebuffer .read (some m.framebuffer), .bindFramebuffer .draw (some set.framebuffer),
        .copy whole whole .colorOnly .nearest]).count
      fun s => { s with resolves := s.resolves + 1 }

/-- Shows the colour of the set on the display, and binds the framebuffer of the texture. -/
def endFrame (c : Canvas) (surface : Size) (context : Context) : Canvas :=
  match c.backing.set? with
  | none => c
  | some set =>
    let c := (c.resolve set).performAll
      [.bindFramebuffer .both none, .clearDepth (Binary.ofNat 1), .clearStencil 0,
        .clear .depthStencil, .switch .blend false]
    let patch := TexturePatch.corner set.texture set.layout.size surface.width surface.height
    let c :=
      match c.drawPatch context surface patch with
      | (false, c) => c
      | (true, c) => c.count fun s => { s with presents := s.presents + 1 }
    { c.performAll [.bindFramebuffer .both (some set.framebuffer)] with
      backing := c.backing.focusOn .color }

/-! ## Reading back -/

/-- Makes the colour of the set readable, with alpha made opaque: the framebuffer that is bound for
it, or nothing without a set. -/
def readback (c : Canvas) : Option FramebufferId × Canvas :=
  match c.backing.set? with
  | none => (none, c)
  | some set =>
    let c := (c.resolve set).performAll
      [.bindFramebuffer .both (some set.framebuffer), .colorMask ⟨false, false, false, true⟩,
        .clearColor .opaqueBlack, .clear .colorOnly, .colorMask (Channels.all true)]
    (some set.framebuffer, { c with backing := c.backing.focusOn .color })

/-- Reads a pixel, rows counted from the top; nothing outside the surface. -/
def sample {α : Type} (c : Canvas) (surface : Size) (x y : Nat)
    (read : Device → Nat → Nat → α × Device) : Option α × Canvas :=
  if surface.contains x y then
    match flipRow? surface.height y with
    | none => (none, c)
    | some row =>
      let (value, device) := read c.device x row
      (some value, { c with device := device })
  else (none, c)

/-- The colour of a pixel of what is read from. -/
def sampleColor (c : Canvas) (surface : Size) (x y : Nat) : Option Pixel × Canvas :=
  c.sample surface x y Device.readColor

/-- The depth of a pixel of what is read from. -/
def sampleDepth (c : Canvas) (surface : Size) (x y : Nat) : Option Single × Canvas :=
  c.sample surface x y Device.readDepth

/-- The stencil value of a pixel of what is read from. -/
def sampleStencil (c : Canvas) (surface : Size) (x y : Nat) : Option UInt8 × Canvas :=
  c.sample surface x y Device.readStencil

end Canvas

end Compositor
