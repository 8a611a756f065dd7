import Compositor.Proofs.Driver.Effect

/-!
# What calls make of their target

The calls that change a live object for good, and what each makes of it: storage for a texture or a
renderbuffer, an image in a slot of a framebuffer, a compiled shader, a linked program.
-/

namespace Compositor

open Numeric

/-- A change of the objects of a kind, for objects of all kinds. -/
def Stored.mapObject : (k : Kind) → (k.Object → k.Object) → Stored → Stored
  | .texture, f, texture t => texture (f t)
  | .framebuffer, f, framebuffer b => framebuffer (f b)
  | .renderbuffer, f, renderbuffer r => renderbuffer (f r)
  | .shader, f, shader s => shader (f s)
  | .program, f, program p => program (f p)
  | _, _, s => s

@[simp] theorem Stored.mapObject_store (k : Kind) (f : k.Object → k.Object) (v : k.Object) :
    (k.store v).mapObject k f = k.store (f v) := by
  cases k <;> rfl

theorem Stored.mapObject_comp (k : Kind) (f g : k.Object → k.Object) :
    mapObject k g ∘ mapObject k f = mapObject k (g ∘ f) := by
  funext s
  cases k <;> cases s <;> rfl

theorem Objects.stored?_modify_mapObject (o : Objects) {k : Kind} (id : ObjectId k)
    (f : k.Object → k.Object) (h : Handle) :
    (o.setTable k ((o.table k).modify id f)).stored? h =
      if h = id.handle then (o.stored? h).map (Stored.mapObject k f) else o.stored? h :=
  stored?_modify_map o id (Stored.mapObject_store k f) h

namespace Driver

/-- The call changes the object under `x` with `f`, and nothing else. -/
structure Alters (d : Driver) (c : Call) (x : Handle) (f : Stored → Stored) : Prop where
  creates : c.creates? = none
  deletes : c.deletes? = none
  target : d.target? c = some x
  stored : ∀ y, (d.perform c).objects.stored? y =
    if y = x then (d.objects.stored? y).map f else d.objects.stored? y

variable {d : Driver}

/-- A call that applies a function to one object of a table. -/
theorem alters_of_modify {c : Call} {k : Kind} {id : ObjectId k} {f : k.Object → k.Object}
    (hcreates : c.creates? = none) (hdeletes : c.deletes? = none)
    (htarget : d.target? c = some id.handle)
    (ho : (d.perform c).objects = d.objects.setTable k ((d.objects.table k).modify id f)) :
    d.Alters c id.handle (Stored.mapObject k f) where
  creates := hcreates
  deletes := hdeletes
  target := htarget
  stored y := by
    rw [ho]
    exact Objects.stored?_modify_mapObject d.objects id f y

theorem alters_textureImage {target : TextureTarget} {id : TextureId}
    (hb : d.bindings.texture target = some id) (size : Size) :
    d.Alters (.textureImage target size) id.handle
      (Stored.mapObject .texture fun _ => ⟨some size, .fresh⟩) := by
  refine alters_of_modify (k := .texture) rfl rfl ?_ ?_
  · rw [target?, hb]
    rfl
  · simp only [perform, textureImage, hb]
    rfl

/-- The image is attached to the framebuffer that is drawn to. -/
theorem alters_attach {c : Call} {fb : FramebufferId} (hb : d.bindings.draw = some fb)
    {slot : Attachment} {image : Image} (hcreates : c.creates? = none)
    (hdeletes : c.deletes? = none) (htarget : d.target? c = d.bindings.draw.map (·.handle))
    (hc : d.perform c = d.attach slot image) :
    d.Alters c fb.handle (Stored.mapObject .framebuffer (·.attach image slot)) := by
  refine alters_of_modify (k := .framebuffer) hcreates hdeletes ?_ ?_
  · rw [htarget, hb]
    rfl
  · rw [hc, attach, hb]
    rfl

theorem alters_attachTexture {fb : FramebufferId} (hb : d.bindings.draw = some fb)
    (slot : Attachment) (target : TextureTarget) (id : TextureId) :
    d.Alters (.attachTexture slot target id) fb.handle
      (Stored.mapObject .framebuffer (·.attach (.texture id) slot)) :=
  alters_attach hb rfl rfl rfl rfl

theorem alters_attachRenderbuffer {fb : FramebufferId} (hb : d.bindings.draw = some fb)
    (slot : Attachment) (id : RenderbufferId) :
    d.Alters (.attachRenderbuffer slot id) fb.handle
      (Stored.mapObject .framebuffer (·.attach (.renderbuffer id) slot)) :=
  alters_attach hb rfl rfl rfl rfl

theorem alters_renderbufferStorage {id : RenderbufferId} (hb : d.bindings.renderbuffer = some id)
    (format : StorageFormat) (samples : Nat) (size : Size) :
    d.Alters (.renderbufferStorage format samples size) id.handle
      (Stored.mapObject .renderbuffer fun _ =>
        ⟨some ⟨format, min samples d.profile.sampleLimit, size⟩, .fresh⟩) := by
  refine alters_of_modify (k := .renderbuffer) rfl rfl ?_ ?_
  · rw [target?, hb]
    rfl
  · simp only [perform, renderbufferStorage, hb]
    rfl

theorem alters_compile (d : Driver) (id : ShaderId) (source : String) :
    d.Alters (.compile id source) id.handle
      (Stored.mapObject .shader (·.compile d.pretence.failCompile source)) :=
  alters_of_modify (k := .shader) rfl rfl rfl rfl

theorem alters_attachShader (d : Driver) (id : ProgramId) (shader : ShaderId) :
    d.Alters (.attachShader id shader) id.handle
      (Stored.mapObject .program fun p => { p with shaders := p.shaders ++ [shader] }) :=
  alters_of_modify (k := .program) rfl rfl rfl rfl

theorem alters_link (d : Driver) (id : ProgramId) :
    d.Alters (.link id) id.handle
      (Stored.mapObject .program fun p =>
        p.link d.pretence.failLink (d.attached? p .vertex) (d.attached? p .fragment)) :=
  alters_of_modify (k := .program) rfl rfl rfl rfl

end Driver

end Compositor
