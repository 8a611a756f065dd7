import Compositor.Color
import Compositor.Context
import Compositor.Driver.Table
import Compositor.Geometry

/-!
# The state of a driver

A driver that runs in memory. It keeps the objects, bindings and pipeline state of a real one, but
an image holds one colour, one depth and one stencil value, and every clear, copy or draw covers
its whole target. That is enough to see which image ended up with which contents.
-/

namespace Compositor

open Numeric

structure Profile where
  /-- Words that name its extensions, separated by blanks. -/
  extensions : String
  /-- Whether multisample storage and framebuffer copies are available. -/
  extended : Bool
  /-- The largest sample count, as the driver reports it. -/
  maxSamples : Int
deriving DecidableEq, Repr

namespace Profile

/-- A driver with every extension the compositor knows. -/
def full : Profile where
  extensions :=
    " ".intercalate
      ["GL_ARB_texture_non_power_of_two", "GL_EXT_packed_depth_stencil",
        "GL_EXT_framebuffer_object", "GL_EXT_framebuffer_multisample", "GL_EXT_framebuffer_blit"]
  extended := true
  maxSamples := 8

/-- A driver with no extension and one sample. -/
def minimal : Profile := ⟨"", false, 1⟩

/-- The largest sample count that storage is given; a report below one counts as one. -/
def sampleLimit (p : Profile) : Nat := max 1 p.maxSamples.toNat

end Profile

@[ext] structure Fill where
  color : Pixel
  depth : Single
  /-- The stencil value of every pixel. -/
  stencil : UInt8
deriving DecidableEq, Repr

/-- Fresh contents: no colour, the greatest depth, stencil zero. -/
def Fill.fresh : Fill := ⟨Channels.all 0, Binary.ofNat 1, 0⟩

instance : Inhabited Fill where
  default := Fill.fresh

/-- An image that can be attached to a framebuffer. -/
inductive Image where
  | texture (id : TextureId)
  | renderbuffer (id : RenderbufferId)
deriving DecidableEq, Repr

structure Texture where
  /-- The size of its storage, once it has storage. -/
  size : Option Size
  fill : Fill
deriving DecidableEq, Repr

structure Storage where
  format : StorageFormat
  samples : Nat
  size : Size
deriving DecidableEq, Repr

structure Renderbuffer where
  /-- Its storage, once it has storage. -/
  storage : Option Storage
  fill : Fill
deriving DecidableEq, Repr

/-- A framebuffer: the images attached to its slots, which may be gone by now. -/
structure Framebuffer where
  color : Option Image
  depth : Option Image
  stencil : Option Image
deriving DecidableEq, Repr, Inhabited

namespace Framebuffer

/-- The image attached to a slot. -/
def slot (f : Framebuffer) : Attachment → Option Image
  | .color => f.color
  | .depth => f.depth
  | .stencil => f.stencil

/-- Attaches an image to a slot. -/
def attach (f : Framebuffer) (image : Image) : Attachment → Framebuffer
  | .color => { f with color := some image }
  | .depth => { f with depth := some image }
  | .stencil => { f with stencil := some image }

end Framebuffer

structure Shader where
  stage : Stage
  /-- The text last compiled. -/
  source : String
  compiled : Bool
  /-- What the compiler had to say. -/
  log : String
deriving DecidableEq, Repr

/-- What a linked program paints with. -/
inductive Paint where
  /-- The colour in its uniform. -/
  | solid
  /-- The texture bound to the target. -/
  | textured (target : TextureTarget)
  /-- Nothing that this driver draws. -/
  | nothing
deriving DecidableEq, Repr

structure Program where
  /-- The shaders attached to it, which may be gone by now. -/
  shaders : List ShaderId
  linked : Bool
  paint : Paint
  /-- What the linker had to say. -/
  log : String
  /-- The declared attributes; the position of a name is its location. -/
  attributes : List String
  /-- The declared uniforms; the position of a name is its location. -/
  uniforms : List String
  /-- The values given to uniform locations, the latest first. -/
  values : List (Nat × Rgba)
deriving DecidableEq, Repr

/-- The program as it is made. -/
def Program.fresh : Program := ⟨[], false, .nothing, "", [], [], []⟩

/-- The live objects of a driver. -/
structure Objects where
  /-- The names handed out so far, to objects of any kind; the next name is one more. -/
  issued : Nat
  textures : Table .texture Texture
  framebuffers : Table .framebuffer Framebuffer
  renderbuffers : Table .renderbuffer Renderbuffer
  shaders : Table .shader Shader
  programs : Table .program Program

namespace Objects

/-- No objects, after `issued` names were handed out. -/
def emptyAfter (issued : Nat) : Objects := ⟨issued, ∅, ∅, ∅, ∅, ∅⟩

def count (o : Objects) : Nat :=
  o.textures.size + o.framebuffers.size + o.renderbuffers.size + o.shaders.size + o.programs.size

/-- The names of the live objects of all kinds. -/
def names (o : Objects) : List Nat :=
  o.textures.ids.map (·.name) ++ o.framebuffers.ids.map (·.name) ++
    o.renderbuffers.ids.map (·.name) ++ o.shaders.ids.map (·.name) ++ o.programs.ids.map (·.name)

theorem length_names (o : Objects) : o.names.length = o.count := by
  simp [names, count, Table.ids, Table.size, Nat.add_assoc]

/-- The contents of an image, if it is live. -/
def fill? (o : Objects) : Image → Option Fill
  | .texture id => (o.textures.get? id).map (·.fill)
  | .renderbuffer id => (o.renderbuffers.get? id).map (·.fill)

/-- Changes the contents of an image, if it is live. -/
def modifyFill (o : Objects) (f : Fill → Fill) : Image → Objects
  | .texture id => { o with textures := o.textures.modify id fun t => { t with fill := f t.fill } }
  | .renderbuffer id =>
    { o with renderbuffers := o.renderbuffers.modify id fun r => { r with fill := f r.fill } }

theorem fill?_modifyFill (o : Objects) (f : Fill → Fill) (image other : Image) :
    (o.modifyFill f image).fill? other =
      if other = image then (o.fill? other).map f else o.fill? other := by
  cases image <;> cases other <;> simp only [modifyFill, fill?, Table.get?_modify] <;> split <;>
    simp_all [Option.map_map, Function.comp_def]

end Objects

structure Bindings where
  /-- The framebuffer read from; the display without one. -/
  read : Option FramebufferId
  /-- The framebuffer drawn to; the display without one. -/
  draw : Option FramebufferId
  texture2d : Option TextureId
  rectangle : Option TextureId
  renderbuffer : Option RenderbufferId
  program : Option ProgramId
deriving DecidableEq, Repr, Inhabited

namespace Bindings

/-- The texture bound to a target. -/
def texture (b : Bindings) : TextureTarget → Option TextureId
  | .texture2d => b.texture2d
  | .rectangle => b.rectangle

/-- Binds a texture to a target. -/
def bindTexture (b : Bindings) (id : Option TextureId) : TextureTarget → Bindings
  | .texture2d => { b with texture2d := id }
  | .rectangle => { b with rectangle := id }

def bindFramebuffer (b : Bindings) (id : Option FramebufferId) : FramebufferTarget → Bindings
  | .both => { b with read := id, draw := id }
  | .read => { b with read := id }
  | .draw => { b with draw := id }

end Bindings

/-- The state of the pipeline that is no object and no binding. -/
structure Pipeline where
  clearColor : Rgba
  clearDepth : Single
  clearStencil : UInt8
  /-- The channels that clears and draws may write. -/
  colorMask : ColorMask
  /-- Whether clears may write depth. -/
  depthMask : Bool
  blend : Bool
  depthTest : Bool
  swapInterval : Nat
deriving DecidableEq, Repr

namespace Pipeline

/-- The state of a new driver. -/
def initial : Pipeline where
  clearColor := Rgba.transparent
  clearDepth := Binary.ofNat 1
  clearStencil := 0
  colorMask := Channels.all true
  depthMask := true
  blend := false
  depthTest := false
  swapInterval := 1

/-- Whether a part of the pipeline is switched on. -/
def isEnabled (p : Pipeline) : Toggle → Bool
  | .blend => p.blend
  | .depthTest => p.depthTest

/-- Switches a part of the pipeline. -/
def toggle (p : Pipeline) (on : Bool) : Toggle → Pipeline
  | .blend => { p with blend := on }
  | .depthTest => { p with depthTest := on }

end Pipeline

/-- Outcomes that the driver is told to pretend. -/
structure Pretence where
  /-- No shader compiles. -/
  failCompile : Bool
  /-- No program links. -/
  failLink : Bool
  /-- The status of every framebuffer. -/
  status : Option Status
deriving DecidableEq, Repr, Inhabited

/-- How much work was given to a driver. -/
structure Statistics where
  textures : Nat
  framebuffers : Nat
  renderbuffers : Nat
  shaders : Nat
  programs : Nat
  compiles : Nat
  links : Nat
  deleted : Nat
  clears : Nat
  copies : Nat
  draws : Nat
deriving DecidableEq, Repr, Inhabited

namespace Statistics

/-- Nothing done yet. -/
def zero : Statistics := ⟨0, 0, 0, 0, 0, 0, 0, 0, 0, 0, 0⟩

/-- How many objects of the kinds that make up a buffer set were made. -/
def bufferAllocations (s : Statistics) : Nat := s.textures + s.framebuffers + s.renderbuffers

def created (s : Statistics) : Nat := s.bufferAllocations + s.shaders + s.programs

end Statistics

/-- A copy between framebuffers, as it was asked for. -/
structure CopyRecord where
  read : Option FramebufferId
  draw : Option FramebufferId
  source : Rect
  target : Rect
  planes : Planes
  filter : Filter
deriving DecidableEq, Repr

structure Driver where
  profile : Profile
  /-- How many context identities were handed out so far, by anyone. -/
  contexts : Nat
  context : Context
  objects : Objects
  bindings : Bindings
  pipeline : Pipeline
  display : Fill
  pretence : Pretence
  statistics : Statistics
  lastCopy : Option CopyRecord

namespace Driver

/-- A new driver in the first context. -/
def create (profile : Profile) : Driver where
  profile := profile
  contexts := 1
  context := .live 1
  objects := .emptyAfter 0
  bindings := ⟨none, none, none, none, none, none⟩
  pipeline := .initial
  display := .fresh
  pretence := ⟨false, false, none⟩
  statistics := .zero
  lastCopy := none

/-- A context identity that nobody has. -/
def freshContext (d : Driver) : Context × Driver :=
  (.live (d.contexts + 1), { d with contexts := d.contexts + 1 })

/-- The context is lost and made anew: objects and bindings are gone, the display is fresh, and the
identity is a new one. Names go on from where they were. -/
def loseContext (d : Driver) : Driver :=
  { d with
    contexts := d.contexts + 1
    context := .live (d.contexts + 1)
    objects := .emptyAfter d.objects.issued
    bindings := ⟨none, none, none, none, none, none⟩
    display := .fresh }

/-- The framebuffer bound to a target; for both targets, the one drawn to. -/
def boundFramebuffer (d : Driver) : FramebufferTarget → Option FramebufferId
  | .read => d.bindings.read
  | .draw | .both => d.bindings.draw

/-- The storage size of a texture. -/
def textureSize? (d : Driver) (id : TextureId) : Option Size :=
  (d.objects.textures.get? id).bind (·.size)

/-- The image in a slot of a framebuffer. -/
def slot? (d : Driver) (id : FramebufferId) (slot : Attachment) : Option Image :=
  (d.objects.framebuffers.get? id).bind (·.slot slot)

/-- The contents of the read target. Where a framebuffer has no live image, fresh contents are
read. -/
def readFill (d : Driver) : Fill :=
  match d.bindings.read with
  | none => d.display
  | some id =>
    let contents (slot : Attachment) : Fill :=
      ((d.slot? id slot).bind d.objects.fill?).getD .fresh
    ⟨(contents .color).color, (contents .depth).depth, (contents .stencil).stencil⟩

/-- Changes the contents of what is drawn to: the display, or the image in a slot of the framebuffer
if there is a live one. -/
def paint (d : Driver) (slot : Attachment) (f : Fill → Fill) : Driver :=
  match d.bindings.draw with
  | none => { d with display := f d.display }
  | some id =>
    match d.slot? id slot with
    | none => d
    | some image => { d with objects := d.objects.modifyFill f image }

/-- Writes a colour to what is drawn to. -/
def paintColor (d : Driver) (mask : ColorMask) (color : Pixel) : Driver :=
  d.paint .color fun fill => { fill with color := Channels.masked mask color fill.color }

/-- Writes a depth to what is drawn to. -/
def paintDepth (d : Driver) (depth : Single) : Driver :=
  d.paint .depth fun fill => { fill with depth := depth }

/-- Writes a stencil value to what is drawn to. -/
def paintStencil (d : Driver) (stencil : UInt8) : Driver :=
  d.paint .stencil fun fill => { fill with stencil := stencil }

end Driver

end Compositor
