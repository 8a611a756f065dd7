import Compositor.Buffer.Order
import Compositor.Device

/-!
# Buffer sets

The images and framebuffers that a surface is drawn into before it is shown. Every set has a
colour texture in a framebuffer. With multisampling a second framebuffer is the one drawn to, and
its colour is a renderbuffer; the store for depth and stencil belongs to the framebuffer drawn to.

A set is made part by part. When a part is refused or a framebuffer cannot be used, the parts made
so far are deleted, the latest first.
-/

namespace Compositor

open Numeric

/-- An object of a buffer set. -/
inductive Part where
  | texture (id : TextureId)
  | framebuffer (id : FramebufferId)
  | renderbuffer (id : RenderbufferId)
deriving DecidableEq, Repr

namespace Part

def name : Part → Nat
  | texture id => id.name
  | framebuffer id => id.name
  | renderbuffer id => id.name

/-- The call that deletes the object. -/
def deletion : Part → Call
  | texture id => .deleteTexture id
  | framebuffer id => .deleteFramebuffer id
  | renderbuffer id => .deleteRenderbuffer id

end Part

/-- The store for depth, and for stencil values if they share it. -/
inductive DepthStore where
  | packed (id : RenderbufferId)
  | depthOnly (id : RenderbufferId)
deriving DecidableEq, Repr

namespace DepthStore

def renderbuffer : DepthStore → RenderbufferId
  | packed id | depthOnly id => id

/-- Whether the store holds stencil values. -/
def isPacked : DepthStore → Bool
  | packed _ => true
  | depthOnly _ => false

end DepthStore

/-- The framebuffer of a set whose images have several samples. -/
structure MultisampleTarget where
  framebuffer : FramebufferId
  color : RenderbufferId
deriving DecidableEq, Repr

structure BufferSet where
  /-- What the set was made for. -/
  order : Order
  layout : Layout
  /-- The colour image that is shown. -/
  texture : TextureId
  framebuffer : FramebufferId
  multisample : Option MultisampleTarget
  depthStore : DepthStore
deriving DecidableEq, Repr

namespace BufferSet

/-- The framebuffer that a frame is drawn to. -/
def target (s : BufferSet) : FramebufferId :=
  match s.multisample with
  | some m => m.framebuffer
  | none => s.framebuffer

/-- The objects of the set in the order in which they are deleted. -/
def parts (s : BufferSet) : List Part :=
  (s.multisample.map fun m => Part.framebuffer m.framebuffer).toList ++
    [.framebuffer s.framebuffer] ++
    (s.multisample.map fun m => Part.renderbuffer m.color).toList ++
    [.renderbuffer s.depthStore.renderbuffer, .texture s.texture]

/-- Deletes the objects of the set. -/
def delete (s : BufferSet) (d : Device) : Device := d.performAll (s.parts.map Part.deletion)

end BufferSet

/-- The calls that clear all planes of what is drawn to: no colour, the greatest depth, stencil
zero. -/
def clearingCalls : List Call :=
  [.clearColor .transparent, .clearDepth (Binary.ofNat 1), .clearStencil 0, .clear .all]

/-! ## Making a set -/

/-- A device on which a set is being made. -/
structure Workbench where
  device : Device
  /-- The parts made so far, the latest first. -/
  parts : List Part

/-- Deletes the parts made so far, after taking framebuffers and renderbuffers out of the
bindings. -/
def Workbench.release (w : Workbench) : Device :=
  w.device.performAll
    ([.bindFramebuffer .both none, .bindRenderbuffer none] ++ w.parts.map Part.deletion)

/-- A step in making a set. -/
abbrev Build := ExceptT Failure (StateM Workbench)

namespace Build

def tell (calls : List Call) : Build Unit :=
  modify fun w => { w with device := w.device.performAll calls }

/-- Makes a part. -/
def make (what : Creation) (part : ObjectId what.kind → Part) : Build (ObjectId what.kind) :=
  fun w =>
    match w.device.attempt what with
    | (.error failure, device) => (.error failure, { w with device := device })
    | (.ok name, device) => (.ok ⟨name⟩, ⟨device, part ⟨name⟩ :: w.parts⟩)

/-- Fails unless what is drawn to is complete. -/
def check : Build Unit := do
  let status := (← get).device.driver.status
  if status.isComplete then return else throw (.framebufferIncomplete status)

/-- Makes the colour texture and the framebuffer that it is attached to, which stays bound. -/
def colorTarget (size : Size) : Build (TextureId × FramebufferId) := do
  let texture ← make .texture .texture
  tell
    [.bindTexture .texture2d (some texture), .textureSampling .texture2d .nearest,
     .textureImage .texture2d size, .bindTexture .texture2d none]
  let framebuffer ← make .framebuffer .framebuffer
  tell [.bindFramebuffer .both (some framebuffer), .attachTexture .color .texture2d texture]
  check
  return (texture, framebuffer)

/-- Makes a framebuffer with a colour image of several samples, which stays bound. -/
def multisampleTarget (layout : Layout) : Build MultisampleTarget := do
  let framebuffer ← make .framebuffer .framebuffer
  tell [.bindFramebuffer .both (some framebuffer)]
  let color ← make .renderbuffer .renderbuffer
  tell
    [.bindRenderbuffer (some color), .renderbufferStorage .rgba8 layout.samples layout.size,
     .attachRenderbuffer .color color]
  return ⟨framebuffer, color⟩

/-- Makes the store for depth and stencil and attaches it to the bound framebuffer. -/
def depthStore (layout : Layout) : Build DepthStore := do
  let samples := if layout.isMultisample then layout.samples else 0
  let store ← make .renderbuffer .renderbuffer
  tell [.bindRenderbuffer (some store)]
  if layout.packed then
    tell
      [.renderbufferStorage .depth24Stencil8 samples layout.size,
       .attachRenderbuffer .depth store, .attachRenderbuffer .stencil store]
    return .packed store
  else
    tell
      [.renderbufferStorage .depth24 samples layout.size, .attachRenderbuffer .depth store]
    return .depthOnly store

/-- Makes all objects of a set and clears its images. Its framebuffer stays bound. -/
def bufferSet (order : Order) (layout : Layout) : Build BufferSet := do
  let (texture, framebuffer) ← colorTarget layout.size
  if layout.isMultisample then
    let multisample ← multisampleTarget layout
    let store ← depthStore layout
    check
    tell (clearingCalls ++ [.bindFramebuffer .both (some framebuffer)])
    tell (.bindRenderbuffer none :: clearingCalls)
    return ⟨order, layout, texture, framebuffer, some multisample, store⟩
  else
    let store ← depthStore layout
    check
    tell (.bindRenderbuffer none :: clearingCalls)
    return ⟨order, layout, texture, framebuffer, none, store⟩

end Build

/-- Makes a set, or leaves none of its parts behind. -/
def BufferSet.make (order : Order) (layout : Layout) (d : Device) :
    Except Failure BufferSet × Device :=
  match (Build.bufferSet order layout).run ⟨d, []⟩ with
  | (.ok set, w) => (.ok set, w.device)
  | (.error failure, w) => (.error failure, w.release)

end Compositor
