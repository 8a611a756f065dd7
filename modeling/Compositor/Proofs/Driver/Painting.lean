import Compositor.Buffer.Set
import Compositor.Proofs.Driver.Effect

/-!
# Painting

Where a painting goes: to the display if nothing is bound for drawing, and else to the live image in
a slot of what is bound. Fresh images stay fresh under the calls that clear them, whatever the masks
let through.
-/

namespace Compositor

open Numeric

theorem Channels.masked_self {α : Type} (mask : Channels Bool) (c : Channels α) :
    masked mask c c = c := by
  simp [masked]

namespace Objects

theorem framebuffers_get?_congr {o p : Objects} {id : FramebufferId}
    (h : p.stored? id.handle = o.stored? id.handle) :
    p.framebuffers.get? id = o.framebuffers.get? id :=
  Option.map_injective (fun _ _ he => Stored.framebuffer.inj he) h

theorem textures_get?_congr {o p : Objects} {id : TextureId}
    (h : p.stored? id.handle = o.stored? id.handle) : p.textures.get? id = o.textures.get? id :=
  Option.map_injective (fun _ _ he => Stored.texture.inj he) h

theorem fill?_congr {o p : Objects} {image : Image}
    (h : p.stored? image.handle = o.stored? image.handle) : p.fill? image = o.fill? image := by
  rw [fill?_eq, fill?_eq, h]

/-- A change that leaves the contents of an image as they are changes nothing. -/
theorem stored?_modifyFill_of_fixed {o : Objects} {f : Fill → Fill} {image : Image}
    (h : ∀ fill, o.fill? image = some fill → f fill = fill) (x : Handle) :
    (o.modifyFill f image).stored? x = o.stored? x := by
  rw [stored?_modifyFill]
  split
  · rename_i hx
    subst hx
    rw [fill?_eq] at h
    cases hs : o.stored? image.handle with
    | none => rfl
    | some s =>
      rw [hs] at h
      cases s with
      | texture t => simp [Stored.mapFill, h t.fill rfl]
      | renderbuffer r => simp [Stored.mapFill, h r.fill rfl]
      | _ => rfl
  · rfl

end Objects

namespace Driver

variable {d e : Driver}

theorem slot?_congr {id : FramebufferId}
    (h : e.objects.stored? id.handle = d.objects.stored? id.handle) (slot : Attachment) :
    e.slot? id slot = d.slot? id slot := by
  rw [slot?, slot?, Objects.framebuffers_get?_congr h]

theorem bindings_paint (d : Driver) (slot : Attachment) (f : Fill → Fill) :
    (d.paint slot f).bindings = d.bindings := by
  rw [paint_eq]

theorem pipeline_paint (d : Driver) (slot : Attachment) (f : Fill → Fill) :
    (d.paint slot f).pipeline = d.pipeline := by
  rw [paint_eq]

theorem display_paint (d : Driver) (slot : Attachment) (f : Fill → Fill) :
    (d.paint slot f).display = if d.bindings.draw = none then f d.display else d.display := by
  unfold paint
  cases hd : d.bindings.draw with
  | none => simp
  | some id =>
    simp only [reduceCtorEq, if_false]
    split <;> rfl

theorem Painted.display {d e : Driver} (h : d.Painted e) (hd : d.bindings.draw ≠ none) :
    e.display = d.display := by
  induction h with
  | refl => rfl
  | @paint e slot f hpainted ih =>
    have hbindings : e.bindings = d.bindings := by rw [hpainted.eq]
    rw [display_paint, hbindings, if_neg hd, ih]
  | count _ _ _ ih => exact ih

/-- While a framebuffer is drawn to, no call changes the display. -/
theorem display_perform_offscreen (d : Driver) (c : Call) (hd : d.bindings.draw ≠ none) :
    (d.perform c).display = d.display := by
  cases hc : c.paints with
  | false => exact d.display_perform hc
  | true => exact (d.painted_perform hc).display hd

/-! ## Painting what is blank -/

/-- What is drawn to is a framebuffer, and its images are fresh. -/
structure Blank (d : Driver) : Prop where
  offscreen : d.bindings.draw ≠ none
  fresh : ∀ slot image fill, d.drawImage? slot = some image → d.objects.fill? image = some fill →
    fill = .fresh

/-- The drivers differ in nothing but what is counted. -/
structure Alike (d e : Driver) : Prop where
  stored : ∀ x, e.objects.stored? x = d.objects.stored? x
  bindings : e.bindings = d.bindings
  pipeline : e.pipeline = d.pipeline
  display : e.display = d.display

theorem Blank.congr (h : d.Blank) (hs : ∀ x, e.objects.stored? x = d.objects.stored? x)
    (hb : e.bindings = d.bindings) : e.Blank where
  offscreen := by
    rw [hb]
    exact h.offscreen
  fresh slot image fill hi hf := by
    have hslot (id : FramebufferId) : e.slot? id slot = d.slot? id slot := slot?_congr (hs _) slot
    refine h.fresh slot image fill ?_ ?_
    · rw [← hi, drawImage?, drawImage?, hb, funext hslot]
    · rw [← hf, Objects.fill?_congr (hs _)]

/-- A painting that leaves fresh contents as they are. -/
theorem Alike.paint (ha : d.Alike e) (h : d.Blank) (slot : Attachment) {f : Fill → Fill}
    (hf : f .fresh = .fresh) : d.Alike (e.paint slot f) := by
  have hb : e.Blank := h.congr ha.stored ha.bindings
  refine ⟨fun x => ?_, (bindings_paint ..).trans ha.bindings,
    (pipeline_paint ..).trans ha.pipeline, ?_⟩
  · rw [objects_paint, ← ha.stored]
    cases hi : e.drawImage? slot with
    | none => rfl
    | some image =>
      refine Objects.stored?_modifyFill_of_fixed (fun fill hfill => ?_) x
      rw [hb.fresh slot image fill hi hfill, hf]
  · rw [display_paint, if_neg hb.offscreen, ha.display]

theorem Alike.paintIf (ha : d.Alike e) (h : d.Blank) (b : Bool) (slot : Attachment)
    {f : Fill → Fill} (hf : f .fresh = .fresh) :
    d.Alike (if b then e.paint slot f else e) := by
  cases b with
  | false => exact ha
  | true => exact ha.paint h slot hf

end Driver

/-- The pipeline with the clear values of fresh contents. -/
def Pipeline.withFreshClears (p : Pipeline) : Pipeline :=
  { p with clearColor := .transparent, clearDepth := Binary.ofNat 1, clearStencil := 0 }

theorem quantize_transparent : Rgba.transparent.quantize = Channels.all 0 := by decide

/-- Clearing what is blank with the values of fresh contents changes nothing, whatever the masks
are. -/
theorem Driver.Blank.clear {d : Driver} (h : d.Blank) (hp : d.pipeline = d.pipeline.withFreshClears)
    (planes : Planes) : d.Alike (d.clear planes) := by
  have hcolor : d.pipeline.clearColor = .transparent := by rw [hp]; rfl
  have hdepth : d.pipeline.clearDepth = Binary.ofNat 1 := by rw [hp]; rfl
  have hstencil : d.pipeline.clearStencil = 0 := by rw [hp]; rfl
  have hcount : d.Alike
      { d with statistics := { d.statistics with clears := d.statistics.clears + 1 } } :=
    ⟨fun _ => rfl, rfl, rfl, rfl⟩
  refine ((hcount.paintIf h _ .color ?_).paintIf h _ .depth ?_).paintIf h _ .stencil ?_
  · rw [hcolor, quantize_transparent]
    exact Fill.ext (Channels.masked_self _ _) rfl rfl
  · rw [hdepth]
    rfl
  · rw [hstencil]
    rfl

/-- The driver `e` is `d` with the bindings `b` and the clear values of fresh contents. -/
structure Driver.Cleared (d : Driver) (b : Bindings) (e : Driver) : Prop where
  stored : ∀ x, e.objects.stored? x = d.objects.stored? x
  bindings : e.bindings = b
  pipeline : e.pipeline = d.pipeline.withFreshClears
  display : e.display = d.display

/-- The clearing calls leave what is blank as it is, but for the clear values. -/
theorem Device.performAll_clearingCalls {d : Device} (h : d.driver.Blank) :
    d.driver.Cleared d.driver.bindings (d.performAll clearingCalls).driver := by
  have hb : Driver.Blank { d.driver with pipeline := d.driver.pipeline.withFreshClears } :=
    h.congr (fun _ => rfl) rfl
  have hc := hb.clear rfl .all
  exact ⟨hc.stored, hc.bindings, hc.pipeline, hc.display⟩

end Compositor
