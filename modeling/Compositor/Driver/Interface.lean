/-!
# The words of the driver interface

What a graphics driver is told about: kinds of objects and their names, targets and slots to bind
them to, storage formats, planes of an image, shader stages, and the outcome of a completeness
check.
-/

namespace Compositor

/-- The kinds of objects a driver makes. -/
inductive Kind where
  | texture
  | framebuffer
  | renderbuffer
  | shader
  | program
deriving DecidableEq, Repr

def Kind.word : Kind → String
  | texture => "texture"
  | framebuffer => "framebuffer"
  | renderbuffer => "renderbuffer"
  | shader => "shader"
  | program => "program"

/-- The name of an object of the given kind. -/
@[ext] structure ObjectId (k : Kind) where
  /-- The number that the driver handed out. -/
  name : Nat
deriving DecidableEq, Repr

abbrev TextureId := ObjectId .texture

/-- The name of a framebuffer. The display has none. -/
abbrev FramebufferId := ObjectId .framebuffer

abbrev RenderbufferId := ObjectId .renderbuffer

abbrev ShaderId := ObjectId .shader

abbrev ProgramId := ObjectId .program

/-- Parts of the pipeline that can be switched on and off. -/
inductive Toggle where
  | blend
  | depthTest
deriving DecidableEq, Repr

/-- Where a texture is bound. -/
inductive TextureTarget where
  /-- Textures sampled by coordinates between zero and one. -/
  | texture2d
  /-- Textures sampled by texel coordinates. -/
  | rectangle
deriving DecidableEq, Repr

/-- Which framebuffer bindings a call sets. -/
inductive FramebufferTarget where
  | both
  | read
  | draw
deriving DecidableEq, Repr

/-- The slots of a framebuffer. -/
inductive Attachment where
  | color
  | depth
  | stencil
deriving DecidableEq, Repr

/-- The storage formats of a renderbuffer. -/
inductive StorageFormat where
  /-- Colour with a byte per channel. -/
  | rgba8
  /-- Depth and stencil in one store. -/
  | depth24Stencil8
  | depth24
  | stencil8
deriving DecidableEq, Repr

namespace StorageFormat

/-- Whether the format stores depth. -/
def hasDepth : StorageFormat → Bool
  | depth24Stencil8 | depth24 => true
  | rgba8 | stencil8 => false

/-- Whether the format stores stencil values. -/
def hasStencil : StorageFormat → Bool
  | depth24Stencil8 | stencil8 => true
  | rgba8 | depth24 => false

/-- Whether a renderbuffer of the format may be attached to a slot. -/
def fits (f : StorageFormat) : Attachment → Bool
  | .color => f = rgba8
  | .depth => f.hasDepth
  | .stencil => f.hasStencil

end StorageFormat

/-- How an image is scaled when it is copied or sampled. -/
inductive Filter where
  | nearest
  | linear
deriving DecidableEq, Repr

/-- A set of the planes of an image. -/
structure Planes where
  color : Bool
  depth : Bool
  stencil : Bool
deriving DecidableEq, Repr, Inhabited

namespace Planes

def colorOnly : Planes := ⟨true, false, false⟩

/-- The depth and the stencil plane. -/
def depthStencil : Planes := ⟨false, true, true⟩

def all : Planes := ⟨true, true, true⟩

end Planes

inductive Stage where
  | vertex
  | fragment
deriving DecidableEq, Repr

def Stage.word : Stage → String
  | vertex => "vertex"
  | fragment => "fragment"

/-- The result of a completeness check. -/
inductive Status where
  | complete
  | incompleteAttachment
  | missingAttachment
  | incompleteDimensions
  | incompleteFormats
  | incompleteDrawBuffer
  | incompleteReadBuffer
  | incompleteMultisample
  | unsupported
  /-- A code that has no name. -/
  | unknown (code : Nat)
deriving DecidableEq, Repr

namespace Status

def message : Status → String
  | complete => "GL_FRAMEBUFFER_COMPLETE"
  | incompleteAttachment => "GL_FRAMEBUFFER_INCOMPLETE_ATTACHMENT"
  | missingAttachment => "GL_FRAMEBUFFER_INCOMPLETE_MISSING_ATTACHMENT"
  | incompleteDimensions => "GL_FRAMEBUFFER_INCOMPLETE_DIMENSIONS"
  | incompleteFormats => "GL_FRAMEBUFFER_INCOMPLETE_FORMATS"
  | incompleteDrawBuffer => "GL_FRAMEBUFFER_INCOMPLETE_DRAW_BUFFER"
  | incompleteReadBuffer => "GL_FRAMEBUFFER_INCOMPLETE_READ_BUFFER"
  | incompleteMultisample => "GL_FRAMEBUFFER_INCOMPLETE_MULTISAMPLE"
  | unsupported => "GL_FRAMEBUFFER_UNSUPPORTED"
  | unknown code =>
    "unknown framebuffer status (0x" ++ String.ofList (Nat.toDigits 16 code) ++ ")"

/-- Whether the framebuffer can be drawn to. -/
def isComplete (s : Status) : Bool := s = complete

end Status

end Compositor
