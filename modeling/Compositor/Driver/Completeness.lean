import Compositor.Driver.Basic

/-!
# Completeness of framebuffers

Whether a framebuffer can be drawn to: its colour slot is filled, every image in it is live, has
storage of a format that its slot takes, and all images have one size and one sample count.
-/

namespace Compositor

/-- The extent of an image: its size and its sample count. -/
structure Extent where
  size : Size
  samples : Nat
deriving DecidableEq, Repr

namespace Objects

/-- The extent of an image that is live and has storage. -/
def extent? (o : Objects) : Image → Option Extent
  | .texture id => ((o.textures.get? id).bind (·.size)).map (⟨·, 0⟩)
  | .renderbuffer id =>
    ((o.renderbuffers.get? id).bind (·.storage)).map fun s => ⟨s.size, s.samples⟩

/-- Whether an image may be used in a slot: a texture for colour only, a renderbuffer by its
format. -/
def supports (o : Objects) (slot : Attachment) : Image → Bool
  | .texture _ => slot = .color
  | .renderbuffer id =>
    ((o.renderbuffers.get? id).bind (·.storage)).any (·.format.fits slot)

/-- The fault of an image in a slot, given the extent of the colour image. A sample count of zero
counts as one. -/
def fault? (o : Objects) (reference : Option Extent) (slot : Attachment) (image : Image) :
    Option Status :=
  if o.supports slot image then
    match o.extent? image, reference with
    | none, _ => some .incompleteAttachment
    | some _, none => none
    | some e, some r =>
      if r.size ≠ e.size then some .incompleteDimensions
      else if max r.samples 1 ≠ max e.samples 1 then some .incompleteMultisample
      else none
  else some .incompleteAttachment

/-- The first fault going through colour, depth and stencil; without one the framebuffer is
complete. -/
def status (o : Objects) (f : Framebuffer) : Status :=
  match f.color with
  | none => .missingAttachment
  | some color =>
    let reference := o.extent? color
    let faultIn (slot : Attachment) : Option Status :=
      (f.slot slot).bind (o.fault? reference slot)
    (o.fault? none .color color <|> faultIn .depth <|> faultIn .stencil).getD .complete

end Objects

/-- The status of the framebuffer that is drawn to. The display is always complete. -/
def Driver.status (d : Driver) : Status :=
  match d.bindings.draw with
  | none => .complete
  | some id =>
    match d.pretence.status with
    | some status => status
    | none =>
      match d.objects.framebuffers.get? id with
      | none => .unsupported
      | some framebuffer => d.objects.status framebuffer

end Compositor
