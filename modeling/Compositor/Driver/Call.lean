import Compositor.Driver.Completeness
import Compositor.Driver.Linking

/-!
# Driver calls

`Call` lists everything a driver can be told to do, and `Driver.perform` says what each call does
to the driver. Questions that leave the driver as it is are functions on `Driver` and no calls;
reading a pixel back is a call, though it changes nothing.
-/

namespace Compositor

open Numeric

inductive Creation where
  | texture
  | framebuffer
  | renderbuffer
  | shader (stage : Stage)
  | program
deriving DecidableEq, Repr

/-- The kind of object that a creation makes. -/
def Creation.kind : Creation → Kind
  | texture => .texture
  | framebuffer => .framebuffer
  | renderbuffer => .renderbuffer
  | shader _ => .shader
  | program => .program

/-- A stream of vertex data; stride and offset are counted in numbers. -/
structure VertexStream where
  location : Nat
  components : Nat
  stride : Nat
  offset : Nat
  data : List Single
deriving DecidableEq, Repr

/-- What a driver can be told to do. -/
inductive Call where
  | switch (toggle : Toggle) (on : Bool)
  | depthMask (write : Bool)
  | colorMask (mask : ColorMask)
  | swapInterval (interval : Nat)
  | create (what : Creation)
  | bindTexture (target : TextureTarget) (id : Option TextureId)
  | activeTexture (unit : Nat)
  | textureSampling (target : TextureTarget) (filter : Filter)
  | textureImage (target : TextureTarget) (size : Size)
  | deleteTexture (id : TextureId)
  | bindFramebuffer (target : FramebufferTarget) (id : Option FramebufferId)
  | attachTexture (slot : Attachment) (target : TextureTarget) (id : TextureId)
  | attachRenderbuffer (slot : Attachment) (id : RenderbufferId)
  | drawBuffer (slot : Attachment)
  | copy (source target : Rect) (planes : Planes) (filter : Filter)
  | deleteFramebuffer (id : FramebufferId)
  | bindRenderbuffer (id : Option RenderbufferId)
  | renderbufferStorage (format : StorageFormat) (samples : Nat) (size : Size)
  | deleteRenderbuffer (id : RenderbufferId)
  | clearColor (color : Rgba)
  | clearDepth (depth : Single)
  | clearStencil (stencil : UInt8)
  | clear (planes : Planes)
  | compile (id : ShaderId) (source : String)
  | deleteShader (id : ShaderId)
  | attachShader (program : ProgramId) (shader : ShaderId)
  | link (id : ProgramId)
  | deleteProgram (id : ProgramId)
  | useProgram (id : Option ProgramId)
  | uniformColor (location : Nat) (value : Rgba)
  | uniformInt (location : Nat) (value : Int)
  | drawStrip (streams : List VertexStream) (count : Nat)
  | readColor (x y : Nat)
  | readDepth (x y : Nat)
  | readStencil (x y : Nat)
deriving DecidableEq, Repr

namespace Driver

/-- Counts `deleted` objects that were deleted. -/
def countDeleted (d : Driver) (deleted : Bool) : Driver :=
  if deleted then
    { d with statistics := { d.statistics with deleted := d.statistics.deleted + 1 } }
  else d

/-- Makes an object under the next name. -/
def make (d : Driver) (what : Creation) : Driver :=
  let name := d.objects.issued + 1
  let o := { d.objects with issued := name }
  let s := d.statistics
  match what with
  | .texture =>
    { d with
      objects := { o with textures := o.textures.insert ⟨name⟩ ⟨none, .fresh⟩ }
      statistics := { s with textures := s.textures + 1 } }
  | .framebuffer =>
    { d with
      objects := { o with framebuffers := o.framebuffers.insert ⟨name⟩ ⟨none, none, none⟩ }
      statistics := { s with framebuffers := s.framebuffers + 1 } }
  | .renderbuffer =>
    { d with
      objects := { o with renderbuffers := o.renderbuffers.insert ⟨name⟩ ⟨none, .fresh⟩ }
      statistics := { s with renderbuffers := s.renderbuffers + 1 } }
  | .shader stage =>
    { d with
      objects := { o with shaders := o.shaders.insert ⟨name⟩ ⟨stage, "", false, ""⟩ }
      statistics := { s with shaders := s.shaders + 1 } }
  | .program =>
    { d with
      objects := { o with programs := o.programs.insert ⟨name⟩ .fresh }
      statistics := { s with programs := s.programs + 1 } }

/-- Gives the texture bound to a target storage, with fresh contents. -/
def textureImage (d : Driver) (target : TextureTarget) (size : Size) : Driver :=
  match d.bindings.texture target with
  | none => d
  | some id =>
    { d with
      objects := { d.objects with
        textures := d.objects.textures.modify id fun _ => ⟨some size, .fresh⟩ } }

/-- Deletes a texture and takes it out of the bindings; framebuffers keep it attached. -/
def deleteTexture (d : Driver) (id : TextureId) : Driver :=
  let unbind (bound : Option TextureId) := if bound = some id then none else bound
  { d.countDeleted (d.objects.textures.contains id) with
    objects := { d.objects with textures := d.objects.textures.erase id }
    bindings := { d.bindings with
      texture2d := unbind d.bindings.texture2d
      rectangle := unbind d.bindings.rectangle } }

/-- Attaches an image to a slot of the framebuffer drawn to. -/
def attach (d : Driver) (slot : Attachment) (image : Image) : Driver :=
  match d.bindings.draw with
  | none => d
  | some id =>
    { d with
      objects := { d.objects with
        framebuffers := d.objects.framebuffers.modify id fun f => f.attach image slot } }

/-- Copies planes of the read target to what is drawn to. Masks do not hold. -/
def copy (d : Driver) (source target : Rect) (planes : Planes) (filter : Filter) : Driver :=
  let contents := d.readFill
  let d : Driver :=
    { d with
      statistics := { d.statistics with copies := d.statistics.copies + 1 }
      lastCopy := some ⟨d.bindings.read, d.bindings.draw, source, target, planes, filter⟩ }
  let d := if planes.color then d.paintColor (Channels.all true) contents.color else d
  let d := if planes.depth then d.paintDepth contents.depth else d
  if planes.stencil then d.paintStencil contents.stencil else d

/-- Deletes a framebuffer and takes it out of the bindings. -/
def deleteFramebuffer (d : Driver) (id : FramebufferId) : Driver :=
  let unbind (bound : Option FramebufferId) := if bound = some id then none else bound
  { d.countDeleted (d.objects.framebuffers.contains id) with
    objects := { d.objects with framebuffers := d.objects.framebuffers.erase id }
    bindings := { d.bindings with
      read := unbind d.bindings.read
      draw := unbind d.bindings.draw } }

/-- Gives the bound renderbuffer storage, with fresh contents and at most the samples there are. -/
def renderbufferStorage (d : Driver) (format : StorageFormat) (samples : Nat) (size : Size) :
    Driver :=
  match d.bindings.renderbuffer with
  | none => d
  | some id =>
    { d with
      objects := { d.objects with
        renderbuffers := d.objects.renderbuffers.modify id fun _ =>
          ⟨some ⟨format, min samples d.profile.sampleLimit, size⟩, .fresh⟩ } }

/-- Deletes a renderbuffer and takes it out of the bindings; framebuffers keep it attached. -/
def deleteRenderbuffer (d : Driver) (id : RenderbufferId) : Driver :=
  { d.countDeleted (d.objects.renderbuffers.contains id) with
    objects := { d.objects with renderbuffers := d.objects.renderbuffers.erase id }
    bindings := { d.bindings with
      renderbuffer :=
        if d.bindings.renderbuffer = some id then none else d.bindings.renderbuffer } }

/-- Clears planes of what is drawn to, where the masks allow it. -/
def clear (d : Driver) (planes : Planes) : Driver :=
  let p := d.pipeline
  let d : Driver :=
    { d with statistics := { d.statistics with clears := d.statistics.clears + 1 } }
  let d := if planes.color then d.paintColor p.colorMask p.clearColor.quantize else d
  let d := if planes.depth && p.depthMask then d.paintDepth p.clearDepth else d
  if planes.stencil then d.paintStencil p.clearStencil else d

/-- Compiles a text as a shader. -/
def compile (d : Driver) (id : ShaderId) (source : String) : Driver :=
  { d with
    objects := { d.objects with
      shaders := d.objects.shaders.modify id fun s => s.compile d.pretence.failCompile source }
    statistics := { d.statistics with compiles := d.statistics.compiles + 1 } }

/-- Deletes a shader; programs keep it attached. -/
def deleteShader (d : Driver) (id : ShaderId) : Driver :=
  { d.countDeleted (d.objects.shaders.contains id) with
    objects := { d.objects with shaders := d.objects.shaders.erase id } }

/-- Links a program from the shaders attached to it. -/
def link (d : Driver) (id : ProgramId) : Driver :=
  { d with
    objects := { d.objects with
      programs := d.objects.programs.modify id fun p =>
        p.link d.pretence.failLink (d.attached? p .vertex) (d.attached? p .fragment) }
    statistics := { d.statistics with links := d.statistics.links + 1 } }

/-- Deletes a program and takes it out of use. -/
def deleteProgram (d : Driver) (id : ProgramId) : Driver :=
  { d.countDeleted (d.objects.programs.contains id) with
    objects := { d.objects with programs := d.objects.programs.erase id }
    bindings := { d.bindings with
      program := if d.bindings.program = some id then none else d.bindings.program } }

def modifyProgram (d : Driver) (f : Program → Program) : Driver :=
  match d.bindings.program with
  | none => d
  | some id =>
    { d with
      objects := { d.objects with programs := d.objects.programs.modify id f } }

/-- The colour that the program in use would paint, if it is linked and has one. A solid program
paints the value that was set last. That is a choice where it holds values at several locations: a
driver may paint any of them. Only calls that set uniforms directly bring a program there, as
filling a region sets one location of its program and no other. -/
def paintedColor? (d : Driver) : Option Pixel := do
  let p ← (d.bindings.program.bind d.objects.programs.get?).filter (·.linked)
  match p.paint with
  | .solid => p.values.head?.map (·.2.quantize)
  | .textured target =>
    let id ← d.bindings.texture target
    (d.objects.textures.get? id).map (·.fill.color)
  | .nothing => none

/-- Draws a strip of triangles, which paints the whole target; fewer than three vertices or no data
paint nothing. -/
def drawStrip (d : Driver) (streams : List VertexStream) (count : Nat) : Driver :=
  let d : Driver :=
    { d with statistics := { d.statistics with draws := d.statistics.draws + 1 } }
  if count < 3 ∨ streams = [] then d
  else
    match d.paintedColor? with
    | none => d
    | some color => d.paintColor d.pipeline.colorMask color

def perform (d : Driver) : Call → Driver
  | .switch toggle on => { d with pipeline := d.pipeline.toggle on toggle }
  | .depthMask write => { d with pipeline := { d.pipeline with depthMask := write } }
  | .colorMask mask => { d with pipeline := { d.pipeline with colorMask := mask } }
  | .swapInterval interval =>
    { d with pipeline := { d.pipeline with swapInterval := interval } }
  | .create what => d.make what
  | .bindTexture target id => { d with bindings := d.bindings.bindTexture id target }
  | .activeTexture _ => d
  | .textureSampling _ _ => d
  | .textureImage target size => d.textureImage target size
  | .deleteTexture id => d.deleteTexture id
  | .bindFramebuffer target id => { d with bindings := d.bindings.bindFramebuffer id target }
  | .attachTexture slot _ id => d.attach slot (.texture id)
  | .attachRenderbuffer slot id => d.attach slot (.renderbuffer id)
  | .drawBuffer _ => d
  | .copy source target planes filter => d.copy source target planes filter
  | .deleteFramebuffer id => d.deleteFramebuffer id
  | .bindRenderbuffer id => { d with bindings := { d.bindings with renderbuffer := id } }
  | .renderbufferStorage format samples size => d.renderbufferStorage format samples size
  | .deleteRenderbuffer id => d.deleteRenderbuffer id
  | .clearColor color => { d with pipeline := { d.pipeline with clearColor := color } }
  | .clearDepth depth => { d with pipeline := { d.pipeline with clearDepth := depth } }
  | .clearStencil stencil => { d with pipeline := { d.pipeline with clearStencil := stencil } }
  | .clear planes => d.clear planes
  | .compile id source => d.compile id source
  | .deleteShader id => d.deleteShader id
  | .attachShader program shader =>
    { d with
      objects := { d.objects with
        programs := d.objects.programs.modify program fun p =>
          { p with shaders := p.shaders ++ [shader] } } }
  | .link id => d.link id
  | .deleteProgram id => d.deleteProgram id
  | .useProgram id => { d with bindings := { d.bindings with program := id } }
  | .uniformColor location value => d.modifyProgram (·.setUniform location value)
  | .uniformInt location value =>
    d.modifyProgram (·.setUniform location ⟨Binary.ofInt value, 0, 0, 0⟩)
  | .drawStrip streams count => d.drawStrip streams count
  | .readColor _ _ => d
  | .readDepth _ _ => d
  | .readStencil _ _ => d

end Driver

end Compositor
