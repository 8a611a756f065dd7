import Compositor.Proofs.Device.Incident
import Compositor.Proofs.Driver.Viewing
import Compositor.Proofs.Trail

/-!
# What painting writes

A clear, a copy and a draw put a coat on what is drawn to. `Driver.coat` says which coat that is,
and `Coat.over` what becomes of contents under it: each plane of the coat goes to the image in its
slot, or to the display if no framebuffer is drawn to, and nothing else changes. An image that is in
two slots takes both planes.
-/

namespace Compositor

open Numeric

/-- What is put on the planes of what is drawn to, as far as there is something: a colour in the
channels of a mask, a depth and a stencil value. -/
structure Coat where
  color : Option (ColorMask × Pixel)
  depth : Option Single
  stencil : Option UInt8

/-- Contents under a coat, of which they take the planes of some slots. -/
def Coat.over (coat : Coat) (takes : Attachment → Bool) (fill : Fill) : Fill where
  color :=
    if takes .color then
      coat.color.elim fill.color fun (mask, color) => Channels.masked mask color fill.color
    else fill.color
  depth := if takes .depth then coat.depth.getD fill.depth else fill.depth
  stencil := if takes .stencil then coat.stencil.getD fill.stencil else fill.stencil

/-- A painting changes no name that is taken. -/
theorem Objects.ids_modifyFill (o : Objects) (f : Fill → Fill) (image : Image) (k : Kind) :
    ((o.modifyFill f image).table k).ids = (o.table k).ids := by
  cases image <;> cases k <;> simp [modifyFill, table]

namespace Driver

/-- The image in a slot of the framebuffer that is read from. -/
def readImage? (d : Driver) (slot : Attachment) : Option Image :=
  d.bindings.read.bind (d.slot? · slot)

/-- The contents that a copy takes the plane of a slot from: those of the display if no framebuffer
is read from, and else those of the live image in the slot, or fresh ones if there is none. -/
def source (d : Driver) (slot : Attachment) : Fill :=
  if d.bindings.read = none then d.display
  else ((d.readImage? slot).bind d.objects.fill?).getD .fresh

/-- The coat that a call puts on what is drawn to. Clears and draws keep to the colour mask and
clears to the depth mask as well, copies to neither. -/
def coat (d : Driver) : Call → Coat
  | .clear planes =>
    { color := if planes.color then
        some (d.pipeline.colorMask, d.pipeline.clearColor.quantize) else none
      depth := if planes.depth && d.pipeline.depthMask then some d.pipeline.clearDepth else none
      stencil := if planes.stencil then some d.pipeline.clearStencil else none }
  | .copy _ _ planes _ =>
    { color := if planes.color then some (Channels.all true, (d.source .color).color) else none
      depth := if planes.depth then some (d.source .depth).depth else none
      stencil := if planes.stencil then some (d.source .stencil).stencil else none }
  | .drawStrip streams count =>
    { color := if count < 3 ∨ streams = [] then none
        else d.paintedColor?.map (d.pipeline.colorMask, ·)
      depth := none
      stencil := none }
  | _ => ⟨none, none, none⟩

/-- Whether an object is the image in a slot of what is drawn to. -/
def takes (d : Driver) (x : Handle) (slot : Attachment) : Bool :=
  (d.drawImage? slot).any fun image => image.handle = x

variable {d e : Driver}

/-! ## Repainting -/

/-- The driver `e` is `d` with its contents changed by `f`, as far as contents and the slots that
are drawn to go. The change is told which slots an image is in; the display is in all of them, or
left as it is if a framebuffer is drawn to. -/
structure Repaints (d e : Driver) (f : (Attachment → Bool) → Fill → Fill) : Prop where
  draw : e.bindings.draw = d.bindings.draw
  image : ∀ slot, e.drawImage? slot = d.drawImage? slot
  stored : ∀ x, e.objects.stored? x = (d.objects.stored? x).map (Stored.mapFill (f (d.takes x)))
  display : e.display =
    if d.bindings.draw = none then f (fun _ => true) d.display else d.display

namespace Repaints

variable {f g : (Attachment → Bool) → Fill → Fill}

theorem refl (d : Driver) : d.Repaints d fun _ fill => fill := by
  refine ⟨rfl, fun _ => rfl, fun x => ?_, (ite_self _).symm⟩
  cases d.objects.stored? x with
  | none => rfl
  | some s => cases s <;> rfl

theorem congr (h : d.Repaints e f) (hf : ∀ takes fill, f takes fill = g takes fill) :
    d.Repaints e g := by
  obtain rfl : f = g := funext fun takes => funext (hf takes)
  exact h

/-- One more painting, of what is in one slot. -/
theorem paint (h : d.Repaints e f) (slot : Attachment) (change : Fill → Fill) :
    d.Repaints (e.paint slot change) fun takes fill =>
      if takes slot then change (f takes fill) else f takes fill where
  draw := (congrArg _ (bindings_paint ..)).trans h.draw
  image other := (drawImage?_paint ..).trans (h.image other)
  stored x := by
    rw [objects_paint, h.image]
    cases hi : d.drawImage? slot with
    | none =>
      have hx : d.takes x slot = false := by rw [takes, hi]; rfl
      simp only [h.stored, hx, Bool.false_eq_true, if_false]
    | some image =>
      dsimp only
      rw [Objects.stored?_modifyFill, h.stored]
      by_cases hx : x = image.handle
      · have htakes : d.takes x slot = true := by simp [takes, hi, hx]
        have hcomp : Stored.mapFill change ∘ Stored.mapFill (f (d.takes x)) =
            Stored.mapFill fun fill => change (f (d.takes x) fill) := by
          funext s
          cases s <;> rfl
        simp only [if_pos hx, Option.map_map, hcomp, htakes, if_true]
      · have htakes : d.takes x slot = false := by simp [takes, hi, Ne.symm hx]
        simp only [if_neg hx, htakes, Bool.false_eq_true, if_false]
  display := by
    rw [display_paint, h.draw, h.display]
    split <;> rfl

/-- Counting paints nothing. -/
theorem count (h : d.Repaints e f) (statistics : Statistics) (lastCopy : Option CopyRecord) :
    d.Repaints { e with statistics := statistics, lastCopy := lastCopy } f :=
  ⟨h.draw, h.image, h.stored, h.display⟩

theorem paintIf (h : d.Repaints e f) (b : Bool) (slot : Attachment) (change : Fill → Fill) :
    d.Repaints (if b then e.paint slot change else e) fun takes fill =>
      if b && takes slot then change (f takes fill) else f takes fill := by
  cases b with
  | false => exact h
  | true => exact h.paint slot change

/-- Planes painted one after the other make up a coat. -/
theorem planes (h : d.Repaints e fun _ fill => fill) (color depth stencil : Bool)
    (mask : ColorMask) (pixel : Pixel) (z : Single) (s : UInt8) :
    let e := if color then e.paintColor mask pixel else e
    let e := if depth then e.paintDepth z else e
    d.Repaints (if stencil then e.paintStencil s else e)
      (Coat.over ⟨if color then some (mask, pixel) else none, if depth then some z else none,
        if stencil then some s else none⟩) := by
  refine (((h.paintIf color .color _).paintIf depth .depth _).paintIf stencil .stencil _).congr
    fun takes fill => Fill.ext ?_ ?_ ?_
  -- each plane is left alone by the paintings of the two others
  · simp only [apply_ite Fill.color, ite_self]
    cases color <;> simp [Coat.over]
  · simp only [apply_ite Fill.depth, ite_self]
    cases depth <;> simp [Coat.over]
  · simp only [apply_ite Fill.stencil, ite_self]
    cases stencil <;> simp [Coat.over]

end Repaints

theorem readFill_eq (d : Driver) : d.readFill =
    ⟨(d.source .color).color, (d.source .depth).depth, (d.source .stencil).stencil⟩ := by
  unfold readFill source readImage?
  cases d.bindings.read <;> rfl

/-- A painting call puts its coat on what is drawn to, and paints nothing else. -/
theorem repaints_perform (d : Driver) {c : Call} (h : c.paints = true) :
    d.Repaints (d.perform c) (d.coat c).over := by
  cases c with
  | clear planes => exact ((Repaints.refl d).count _ _).planes ..
  | copy source target planes filter =>
    have hcoat : d.coat (.copy source target planes filter) =
        ⟨if planes.color then some (Channels.all true, d.readFill.color) else none,
          if planes.depth then some d.readFill.depth else none,
          if planes.stencil then some d.readFill.stencil else none⟩ := by
      rw [readFill_eq]
      rfl
    rw [hcoat]
    exact ((Repaints.refl d).count _ _).planes ..
  | drawStrip streams count =>
    have hcounted := (Repaints.refl d).count
      { d.statistics with draws := d.statistics.draws + 1 } d.lastCopy
    have hsame (s : Statistics) : paintedColor? { d with statistics := s } = d.paintedColor? := rfl
    simp only [perform, drawStrip, coat]
    split
    · exact hcounted.congr fun _ _ => by simp [Coat.over]
    · rw [hsame]
      cases d.paintedColor? with
      | none => exact hcounted.congr fun _ _ => by simp [Coat.over]
      | some color =>
        exact (hcounted.paint .color _).congr fun takes fill => by
          cases h : takes .color <;> simp [Coat.over, h]
  | _ => cases h

/-- Painting changes no name that is taken. -/
theorem Painted.ids (h : d.Painted e) (k : Kind) :
    (e.objects.table k).ids = (d.objects.table k).ids :=
  h.objects_induct (P := fun o => (o.table k).ids = (d.objects.table k).ids) rfl
    fun o f image ho => (o.ids_modifyFill f image k).trans ho

end Driver

namespace Device

/-- While a framebuffer is drawn to, the display keeps its contents unless the context is lost. -/
theorem display_undergo {d : Device} {i : Incident} (hd : d.driver.bindings.draw ≠ none)
    (hi : i.isLoss = false) : (d.undergo i).driver.display = d.driver.display := by
  cases i with
  | call c => exact d.driver.display_perform_offscreen c hd
  | attempt what =>
    rcases ha : d.attempt what with ⟨failure | name, e⟩
    · rw [undergo, ha, (attempt_error ha).2.2.1]
    · rw [undergo, ha, (attempt_ok ha).2.1]
      exact d.driver.display_perform rfl
  | compile id source =>
    obtain ⟨during, after, h⟩ := d.compile_driver id source
    rw [undergo, h]
    exact Driver.display_perform _ rfl
  | loseContext => cases hi
  | _ => rfl

/-- A painting call puts its coat on what is drawn to. Every object, name, binding and part of the
pipeline stays as it is, but for the contents of the images that the coat goes to; the display is
painted only if it is drawn to. And as long as a framebuffer is drawn to, be it a deleted one, no
call that leaves the context changes the display. -/
theorem writes_of_painting (d : Device) :
    (∀ c : Call, c.paints = true →
      let v := d.driver
      let e := (d.perform c).driver
      (∀ x, e.objects.stored? x =
        (v.objects.stored? x).map (Stored.mapFill ((v.coat c).over (v.takes x)))) ∧
      e.display =
        (if v.bindings.draw = none then (v.coat c).over (fun _ => true) v.display
          else v.display) ∧
      (∀ k, (e.objects.table k).ids = (v.objects.table k).ids) ∧
      e.objects.issued = v.objects.issued ∧
      e = { v with
        objects := e.objects
        display := e.display
        statistics := e.statistics
        lastCopy := e.lastCopy }) ∧
    ∀ is : List Incident,
      (∀ step ∈ trail undergo d is,
        step.1.driver.bindings.draw ≠ none ∧ step.2.isLoss = false) →
      (is.foldl undergo d).driver.display = d.driver.display := by
  refine ⟨fun c hc => ?_, fun is his => ?_⟩
  · have hcoat := d.driver.repaints_perform hc
    have hpainted := d.driver.painted_perform hc
    exact ⟨hcoat.stored, hcoat.display, hpainted.ids, hpainted.issued, hpainted.eq⟩
  · exact foldl_of_trail (P := fun e => e.driver.display = d.driver.display)
      (fun e i hstep he => (display_undergo hstep.1 hstep.2).trans he) rfl his

/-- A clear of all planes fills a packed store for both its slots; its colour goes nowhere, as
nothing is in the colour slot. Once the framebuffer is deleted, what is cleared is lost as long as
its name is bound, and the display stays fresh. -/
theorem writes_of_packed_store :
    let d := (create .full).performAll [.create .renderbuffer, .bindRenderbuffer (some ⟨1⟩),
      .renderbufferStorage .depth24Stencil8 0 ⟨4, 4⟩, .create .framebuffer,
      .bindFramebuffer .both (some ⟨2⟩), .attachRenderbuffer .depth ⟨1⟩,
      .attachRenderbuffer .stencil ⟨1⟩, .clearDepth 0, .clearStencil 3,
      .clearColor Rgba.opaqueBlack]
    let gone := d.performAll [.deleteFramebuffer ⟨2⟩, .bindFramebuffer .both (some ⟨2⟩)]
    let is : List Incident := [.call (.clear .all), .attempt .texture, .call (.clear .all)]
    (d.perform (.clear .all)).driver.objects.stored? ⟨.renderbuffer, 1⟩ =
        some (.renderbuffer ⟨some ⟨.depth24Stencil8, 0, ⟨4, 4⟩⟩, ⟨Channels.all 0, 0, 3⟩⟩) ∧
      (is.foldl undergo gone).driver.display = .fresh := by
  intro d gone is
  obtain ⟨hpaints, -⟩ := writes_of_painting d
  obtain ⟨hstored, -⟩ := hpaints (.clear .all) rfl
  obtain ⟨-, hkept⟩ := writes_of_painting gone
  have hbound : ∀ step ∈ trail undergo gone is,
      step.1.driver.bindings.draw ≠ none ∧ step.2.isLoss = false := by decide
  exact ⟨(hstored _).trans rfl, (hkept is hbound).trans rfl⟩

end Device

end Compositor
