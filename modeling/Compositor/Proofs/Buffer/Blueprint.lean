import Compositor.Buffer.Backing
import Compositor.Proofs.Device.Growth
import Compositor.Proofs.Driver.Painting

/-!
# Blueprints of buffer sets

What the objects of a buffer set look like from the outside: which image is in which slot, and what
storage it has. `BufferSet.Intact` says that the objects of a driver follow the blueprint of a set.
It speaks of outlines only, so it outlasts everything that is painted, and a set that is intact has
complete framebuffers.
-/

namespace Compositor

open Numeric

namespace Part

/-- The handle of the object. -/
def handle : Part → Handle
  | texture id => id.handle
  | framebuffer id => id.handle
  | renderbuffer id => id.handle

@[simp] theorem deletes?_deletion (p : Part) : p.deletion.deletes? = some p.handle := by
  cases p <;> rfl

end Part

namespace DepthStore

/-- The format of the storage. -/
def format : DepthStore → StorageFormat
  | packed _ => .depth24Stencil8
  | depthOnly _ => .depth24

/-- The image for stencil values. -/
def stencil? : DepthStore → Option Image
  | packed id => some (.renderbuffer id)
  | depthOnly _ => none

end DepthStore

/-! ## Outlines -/

namespace Objects

variable {o : Objects}

theorem get?_of_outline_texture {id : TextureId} {size : Option Size} {fill : Fill}
    (h : o.outline? id.handle = some (.texture ⟨size, fill⟩)) :
    ∃ fill, o.textures.get? id = some ⟨size, fill⟩ := by
  rw [outline?, stored?_texture] at h
  cases ht : o.textures.get? id with
  | none => simp [ht] at h
  | some t =>
    rw [ht] at h
    cases h
    exact ⟨t.fill, rfl⟩

theorem get?_of_outline_framebuffer {id : FramebufferId} {f : Framebuffer}
    (h : o.outline? id.handle = some (.framebuffer f)) : o.framebuffers.get? id = some f := by
  rw [outline?, stored?_framebuffer] at h
  cases ht : o.framebuffers.get? id with
  | none => simp [ht] at h
  | some g =>
    rw [ht] at h
    cases h
    rfl

theorem get?_of_outline_renderbuffer {id : RenderbufferId} {storage : Option Storage} {fill : Fill}
    (h : o.outline? id.handle = some (.renderbuffer ⟨storage, fill⟩)) :
    ∃ fill, o.renderbuffers.get? id = some ⟨storage, fill⟩ := by
  rw [outline?, stored?_renderbuffer] at h
  cases ht : o.renderbuffers.get? id with
  | none => simp [ht] at h
  | some r =>
    rw [ht] at h
    cases h
    exact ⟨r.fill, rfl⟩

/-- An image with an extent that a slot takes. -/
structure Fits (o : Objects) (slot : Attachment) (image : Image) (extent : Extent) : Prop where
  extent : o.extent? image = some extent
  supports : o.supports slot image = true

theorem fits_texture {id : TextureId} {size : Size} {fill : Fill}
    (h : o.outline? id.handle = some (.texture ⟨some size, fill⟩)) :
    o.Fits .color (.texture id) ⟨size, 0⟩ := by
  obtain ⟨fill', ht⟩ := get?_of_outline_texture h
  exact ⟨by simp [extent?, ht], rfl⟩

theorem fits_renderbuffer {id : RenderbufferId} {storage : Storage} {fill : Fill}
    (h : o.outline? id.handle = some (.renderbuffer ⟨some storage, fill⟩)) {slot : Attachment}
    (hs : storage.format.fits slot = true) :
    o.Fits slot (.renderbuffer id) ⟨storage.size, storage.samples⟩ := by
  obtain ⟨fill', ht⟩ := get?_of_outline_renderbuffer h
  exact ⟨by simp [extent?, ht], by simp [supports, ht, hs]⟩

/-- Images of one extent that fit their slots make a complete framebuffer. -/
theorem status_eq_complete {f : Framebuffer} {color : Image} {extent : Extent}
    (hc : f.color = some color) (hf : o.Fits .color color extent)
    (hd : ∀ image, f.depth = some image →
      ∃ n, o.Fits .depth image ⟨extent.size, n⟩ ∧ max n 1 = max extent.samples 1)
    (hs : ∀ image, f.stencil = some image →
      ∃ n, o.Fits .stencil image ⟨extent.size, n⟩ ∧ max n 1 = max extent.samples 1) :
    o.status f = .complete := by
  -- no samples count as one sample
  have sound {slot : Attachment} {image : Image} {n : Nat}
      (h : o.Fits slot image ⟨extent.size, n⟩) (hn : max n 1 = max extent.samples 1) :
      o.fault? (some extent) slot image = none := by
    simp [fault?, h.supports, h.extent, hn]
  have hcolor : o.fault? none .color color = none := by
    simp [fault?, hf.supports, hf.extent]
  have hdepth : (f.slot .depth).bind (o.fault? (some extent) .depth) = none := by
    cases hi : f.depth with
    | none => simp [Framebuffer.slot, hi]
    | some image =>
      obtain ⟨n, hfit, hn⟩ := hd image hi
      simpa [Framebuffer.slot, hi] using sound hfit hn
  have hstencil : (f.slot .stencil).bind (o.fault? (some extent) .stencil) = none := by
    cases hi : f.stencil with
    | none => simp [Framebuffer.slot, hi]
    | some image =>
      obtain ⟨n, hfit, hn⟩ := hs image hi
      simpa [Framebuffer.slot, hi] using sound hfit hn
  rw [status, hc]
  simp only [hf.extent]
  rw [hcolor, hdepth, hstencil]
  rfl

end Objects

/-! ## Blueprints -/

namespace BufferSet

/-- The handles of the objects of the set. -/
def handles (s : BufferSet) : List Handle := s.parts.map Part.handle

theorem length_handles (s : BufferSet) :
    s.handles.length = if s.multisample.isSome then 5 else 3 := by
  unfold handles parts
  cases s.multisample <;> rfl

theorem deletes?_parts (s : BufferSet) :
    (s.parts.map Part.deletion).map Call.deletes? = s.handles.map some := by
  simp [handles]

/-- The image that the colour of a frame goes to. -/
def drawnImage (s : BufferSet) : Image :=
  match s.multisample with
  | some m => .renderbuffer m.color
  | none => .texture s.texture

/-- What is attached to the framebuffer that a frame is drawn to. -/
def drawnSlots (s : BufferSet) : Framebuffer :=
  ⟨some s.drawnImage, some (.renderbuffer s.depthStore.renderbuffer), s.depthStore.stencil?⟩

/-- What is attached to the framebuffer of the texture. -/
def shownSlots (s : BufferSet) : Framebuffer :=
  match s.multisample with
  | some _ => ⟨some (.texture s.texture), none, none⟩
  | none => s.drawnSlots

/-- The samples that the storage of a renderbuffer of the set has, where there are at most `limit`.
-/
def storedSamples (s : BufferSet) (limit : Nat) : Nat :=
  if s.multisample.isSome then min s.layout.samples limit else 0

/-- The parts of the set with what they are when nothing was drawn, where storage has at most
`limit` samples. -/
def blueprint (s : BufferSet) (limit : Nat) : List (Part × Stored) :=
  let store (format : StorageFormat) : Stored :=
    .renderbuffer ⟨some ⟨format, s.storedSamples limit, s.layout.size⟩, .fresh⟩
  (s.multisample.map fun m =>
      (Part.framebuffer m.framebuffer, Stored.framebuffer s.drawnSlots)).toList
    ++ [(.framebuffer s.framebuffer, .framebuffer s.shownSlots)]
    ++ (s.multisample.map fun m => (Part.renderbuffer m.color, store .rgba8)).toList
    ++ [(.renderbuffer s.depthStore.renderbuffer, store s.depthStore.format),
        (.texture s.texture, .texture ⟨some s.layout.size, .fresh⟩)]

theorem parts_eq (s : BufferSet) (limit : Nat) : s.parts = (s.blueprint limit).map (·.1) := by
  unfold parts blueprint
  cases s.multisample <;> rfl

theorem mem_handles_iff (s : BufferSet) (limit : Nat) {x : Handle} :
    x ∈ s.handles ↔ ∃ e ∈ s.blueprint limit, e.1.handle = x := by
  rw [handles, parts_eq s limit, List.map_map, List.mem_map]
  rfl

theorem texture_mem_blueprint (s : BufferSet) (limit : Nat) :
    (.texture s.texture, .texture ⟨some s.layout.size, .fresh⟩) ∈ s.blueprint limit := by
  simp [blueprint]

theorem framebuffer_mem_blueprint (s : BufferSet) (limit : Nat) :
    (.framebuffer s.framebuffer, .framebuffer s.shownSlots) ∈ s.blueprint limit := by
  simp [blueprint]

theorem target_mem_blueprint (s : BufferSet) (limit : Nat) :
    (.framebuffer s.target, .framebuffer s.drawnSlots) ∈ s.blueprint limit := by
  unfold target
  cases hm : s.multisample <;> simp [blueprint, shownSlots, hm]

theorem depthStore_mem_blueprint (s : BufferSet) (limit : Nat) :
    (.renderbuffer s.depthStore.renderbuffer,
      .renderbuffer ⟨some ⟨s.depthStore.format, s.storedSamples limit, s.layout.size⟩, .fresh⟩) ∈
      s.blueprint limit := by
  simp [blueprint]

theorem color_mem_blueprint {s : BufferSet} (limit : Nat) {m : MultisampleTarget}
    (hm : s.multisample = some m) :
    (.renderbuffer m.color,
      .renderbuffer ⟨some ⟨.rgba8, s.storedSamples limit, s.layout.size⟩, .fresh⟩) ∈
      s.blueprint limit := by
  simp [blueprint, hm]

/-- What is in a blueprint was not drawn on. -/
theorem fresh_blueprint {s : BufferSet} {limit : Nat} {e : Part × Stored}
    (he : e ∈ s.blueprint limit) :
    e.2.outline = e.2 ∧ ∀ fill, e.2.fill? = some fill → fill = .fresh := by
  unfold blueprint at he
  cases hm : s.multisample with
  | none =>
    simp only [hm, Option.map_none, Option.toList_none, List.nil_append, List.append_nil,
      List.cons_append, List.mem_cons, List.mem_nil_iff, or_false] at he
    rcases he with rfl | rfl | rfl <;> exact ⟨rfl, fun _ hf => by cases hf <;> rfl⟩
  | some m =>
    simp only [hm, Option.map_some, Option.toList_some, List.cons_append, List.nil_append,
      List.mem_cons, List.mem_nil_iff, or_false] at he
    rcases he with rfl | rfl | rfl | rfl | rfl <;> exact ⟨rfl, fun _ hf => by cases hf <;> rfl⟩

theorem mem_handles_of_drawnSlots (s : BufferSet) {slot : Attachment} {image : Image}
    (h : s.drawnSlots.slot slot = some image) : image.handle ∈ s.handles := by
  have hstore : Image.handle (.renderbuffer s.depthStore.renderbuffer) ∈ s.handles := by
    simp [handles, parts, Image.handle, Part.handle]
  cases slot with
  | color =>
    cases h
    unfold drawnImage
    cases hm : s.multisample <;> simp [handles, parts, hm, Image.handle, Part.handle]
  | depth =>
    cases h
    exact hstore
  | stencil =>
    have hi : s.depthStore.stencil? = some image := h
    cases hd : s.depthStore with
    | packed id =>
      rw [hd] at hi hstore
      cases hi
      exact hstore
    | depthOnly id =>
      rw [hd] at hi
      cases hi

theorem mem_handles_of_shownSlots (s : BufferSet) {slot : Attachment} {image : Image}
    (h : s.shownSlots.slot slot = some image) : image.handle ∈ s.handles := by
  unfold shownSlots at h
  split at h
  · cases slot with
    | color =>
      cases h
      simp [handles, parts, Image.handle, Part.handle]
    | depth => cases h
    | stencil => cases h
  · exact s.mem_handles_of_drawnSlots h

/-- The objects of a driver are those of the blueprint, and nothing was drawn on them. -/
def Unpainted (s : BufferSet) (limit : Nat) (o : Objects) : Prop :=
  ∀ e ∈ s.blueprint limit, o.stored? e.1.handle = some e.2

/-- The objects of a driver follow the blueprint of the set. -/
structure Intact (s : BufferSet) (limit : Nat) (o : Objects) : Prop where
  multisample : s.multisample.isSome = s.layout.isMultisample
  packed : s.depthStore.isPacked = s.layout.packed
  outline : ∀ e ∈ s.blueprint limit, o.outline? e.1.handle = some e.2

namespace Intact

variable {s : BufferSet} {limit : Nat} {o p : Objects}

/-- Only the outlines of the objects of the set matter. -/
theorem congr (h : s.Intact limit o) (ho : ∀ x ∈ s.handles, p.outline? x = o.outline? x) :
    s.Intact limit p where
  multisample := h.multisample
  packed := h.packed
  outline e he := by
    rw [ho _ ((s.mem_handles_iff limit).mpr ⟨e, he, rfl⟩), h.outline e he]

theorem live (h : s.Intact limit o) {x : Handle} (hx : x ∈ s.handles) : o.Live x := by
  obtain ⟨e, he, rfl⟩ := (s.mem_handles_iff limit).mp hx
  rw [Objects.live_iff_outline?, h.outline e he]
  exact nofun

theorem texture_outline (h : s.Intact limit o) :
    o.outline? s.texture.handle = some (.texture ⟨some s.layout.size, .fresh⟩) :=
  h.outline _ (s.texture_mem_blueprint limit)

theorem framebuffer_outline (h : s.Intact limit o) :
    o.outline? s.framebuffer.handle = some (.framebuffer s.shownSlots) :=
  h.outline _ (s.framebuffer_mem_blueprint limit)

theorem target_outline (h : s.Intact limit o) :
    o.outline? s.target.handle = some (.framebuffer s.drawnSlots) :=
  h.outline _ (s.target_mem_blueprint limit)

theorem depthStore_outline (h : s.Intact limit o) :
    o.outline? s.depthStore.renderbuffer.handle =
      some (.renderbuffer ⟨some ⟨s.depthStore.format, s.storedSamples limit, s.layout.size⟩,
        .fresh⟩) :=
  h.outline _ (s.depthStore_mem_blueprint limit)

theorem color_outline (h : s.Intact limit o) {m : MultisampleTarget} (hm : s.multisample = some m) :
    o.outline? m.color.handle =
      some (.renderbuffer ⟨some ⟨.rgba8, s.storedSamples limit, s.layout.size⟩, .fresh⟩) :=
  h.outline _ (color_mem_blueprint limit hm)

/-! ### Completeness -/

theorem fits_depth (h : s.Intact limit o) :
    o.Fits .depth (.renderbuffer s.depthStore.renderbuffer)
      ⟨s.layout.size, s.storedSamples limit⟩ :=
  Objects.fits_renderbuffer h.depthStore_outline (by cases s.depthStore <;> rfl)

theorem fits_stencil (h : s.Intact limit o) {image : Image}
    (hi : s.depthStore.stencil? = some image) :
    o.Fits .stencil image
      ⟨s.layout.size, s.storedSamples limit⟩ := by
  have ho := h.depthStore_outline
  cases hd : s.depthStore with
  | packed id =>
    rw [hd] at hi ho
    cases hi
    exact Objects.fits_renderbuffer ho rfl
  | depthOnly id =>
    rw [hd] at hi
    cases hi

theorem fits_drawnImage (h : s.Intact limit o) :
    o.Fits .color s.drawnImage
      ⟨s.layout.size, s.storedSamples limit⟩ := by
  unfold drawnImage
  cases hm : s.multisample with
  | none =>
    -- a texture has no samples
    rw [show s.storedSamples limit = 0 by simp [storedSamples, hm]]
    exact Objects.fits_texture h.texture_outline
  | some m => exact Objects.fits_renderbuffer (h.color_outline hm) rfl

theorem status_drawnSlots (h : s.Intact limit o) : o.status s.drawnSlots = .complete := by
  refine Objects.status_eq_complete rfl h.fits_drawnImage (fun image hi => ?_) fun image hi => ?_
  · cases hi
    exact ⟨_, h.fits_depth, rfl⟩
  · exact ⟨_, h.fits_stencil hi, rfl⟩

theorem status_shownSlots (h : s.Intact limit o) : o.status s.shownSlots = .complete := by
  unfold shownSlots
  cases s.multisample with
  | none => exact h.status_drawnSlots
  | some m =>
    -- nothing but the texture is attached
    exact Objects.status_eq_complete rfl (Objects.fits_texture h.texture_outline) nofun nofun

/-- Every framebuffer of an intact set is complete. -/
theorem status_complete (h : s.Intact limit o) {id : FramebufferId}
    (hid : Part.framebuffer id ∈ s.parts) :
    ∃ f, o.framebuffers.get? id = some f ∧ o.status f = .complete := by
  have htarget := Objects.get?_of_outline_framebuffer h.target_outline
  have hown := Objects.get?_of_outline_framebuffer h.framebuffer_outline
  unfold parts at hid
  unfold target at htarget
  cases hm : s.multisample with
  | none =>
    have : id = s.framebuffer := by simpa [hm] using hid
    exact ⟨_, this ▸ hown, h.status_shownSlots⟩
  | some m =>
    rw [hm] at htarget
    have : id = m.framebuffer ∨ id = s.framebuffer := by simpa [hm] using hid
    rcases this with rfl | rfl
    · exact ⟨_, htarget, h.status_drawnSlots⟩
    · exact ⟨_, hown, h.status_shownSlots⟩

end Intact

namespace Unpainted

variable {s : BufferSet} {limit : Nat} {o p : Objects}

theorem intact (h : s.Unpainted limit o) (hm : s.multisample.isSome = s.layout.isMultisample)
    (hp : s.depthStore.isPacked = s.layout.packed) : s.Intact limit o where
  multisample := hm
  packed := hp
  outline e he := by rw [Objects.outline?_of_stored? (h e he), (fresh_blueprint he).1]

theorem congr (h : s.Unpainted limit o) (hs : ∀ x ∈ s.handles, p.stored? x = o.stored? x) :
    s.Unpainted limit p := by
  intro e he
  rw [hs _ ((s.mem_handles_iff limit).mpr ⟨e, he, rfl⟩), h e he]

theorem fresh (h : s.Unpainted limit o) {image : Image} (hi : image.handle ∈ s.handles)
    {fill : Fill} (hf : o.fill? image = some fill) : fill = .fresh := by
  obtain ⟨e, he, hx⟩ := (s.mem_handles_iff limit).mp hi
  rw [Objects.fill?_eq, ← hx, h e he] at hf
  exact (fresh_blueprint he).2 fill hf

/-- Drawing to a framebuffer of the set, one draws on fresh images. -/
theorem blank {d : Driver} (h : s.Unpainted limit d.objects) {id : FramebufferId}
    (hd : d.bindings.draw = some id) (hid : id = s.target ∨ id = s.framebuffer) : d.Blank where
  offscreen := by
    rw [hd]
    exact nofun
  fresh slot image fill hi hf := by
    refine h.fresh ?_ hf
    rw [Driver.drawImage?, hd, Option.bind_some, Driver.slot?] at hi
    -- what is drawn on is an image of the set
    rcases hid with rfl | rfl
    · rw [Objects.get?_of_outline_framebuffer
        (Objects.outline?_of_stored? (h _ (s.target_mem_blueprint limit)))] at hi
      exact s.mem_handles_of_drawnSlots hi
    · rw [Objects.get?_of_outline_framebuffer
        (Objects.outline?_of_stored? (h _ (s.framebuffer_mem_blueprint limit)))] at hi
      exact s.mem_handles_of_shownSlots hi

end Unpainted

end BufferSet

end Compositor
