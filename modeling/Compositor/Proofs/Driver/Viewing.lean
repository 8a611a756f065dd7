import Compositor.Proofs.Driver.Painting

/-!
# What is seen of a driver

Two drivers give the same view if they agree on the bound framebuffers, the colour mask, the clear
colour, the display and all objects but shaders and programs. Most calls leave the view as it is,
and paintings of drivers with the same view give the same view again. So what a draw shows can be
said of the driver as it was before the program was built and put to use.
-/

namespace Compositor

open Numeric

/-- Whether a call sets what colours are painted with. -/
def Call.setsColors : Call → Bool
  | colorMask _ | clearColor _ => true
  | _ => false

/-- Whether a call leaves all that is painted with and painted on as it is. -/
def Call.isUnseen (c : Call) : Bool :=
  c.isQuiet && !c.paints && !c.setsFramebuffer && !c.setsColors

theorem Call.isUnseen_iff {c : Call} :
    c.isUnseen = true ↔ c.isQuiet = true ∧ c.paints = false ∧ c.setsFramebuffer = false ∧
      c.setsColors = false := by
  simp [isUnseen, and_assoc]

namespace Objects

/-- Neither a shader nor a program. -/
def IsScenery (x : Handle) : Prop := x.kind ≠ .shader ∧ x.kind ≠ .program

theorem isScenery_image (image : Image) : IsScenery image.handle := by
  cases image <;> exact ⟨nofun, nofun⟩

end Objects

open Objects

namespace Driver

variable {d e f : Driver}

/-- A quiet call that does not paint changes at most uniform values. -/
theorem stored?_perform_of_isQuiet {c : Call} (hq : c.isQuiet = true) (hp : c.paints = false)
    {x : Handle} (hx : x.kind ≠ .program) :
    (d.perform c).objects.stored? x = d.objects.stored? x := by
  have hcreates := Call.creates?_of_isQuiet hq
  have hdeletes := Call.deletes?_of_isQuiet hq
  have htarget := d.target?_of_isQuiet hq
  have hacts := d.acts_perform c
  generalize (d.perform c).objects = o at hacts ⊢
  cases hacts with
  | idle => rfl
  | paint hpaints =>
    rw [hp] at hpaints
    cases hpaints
  | issue what he =>
    rw [he] at hcreates
    cases hcreates
  | erase id _ hd =>
    rw [hdeletes] at hd
    cases hd
  | modify id f _ _ ht =>
    rw [htarget] at ht
    cases ht
  | setUniform id f =>
    rw [Objects.stored?_modify (k := .program), if_neg]
    rintro rfl
    exact hx rfl

/-- The drivers give the same view. -/
structure SameView (d e : Driver) : Prop where
  read : e.bindings.read = d.bindings.read
  draw : e.bindings.draw = d.bindings.draw
  colorMask : e.pipeline.colorMask = d.pipeline.colorMask
  clearColor : e.pipeline.clearColor = d.pipeline.clearColor
  display : e.display = d.display
  stored : ∀ x, IsScenery x → e.objects.stored? x = d.objects.stored? x

namespace SameView

theorem refl (d : Driver) : d.SameView d := ⟨rfl, rfl, rfl, rfl, rfl, fun _ _ => rfl⟩

theorem trans (h : d.SameView e) (h' : e.SameView f) : d.SameView f :=
  ⟨h'.read.trans h.read, h'.draw.trans h.draw, h'.colorMask.trans h.colorMask,
    h'.clearColor.trans h.clearColor, h'.display.trans h.display,
    fun x hx => (h'.stored x hx).trans (h.stored x hx)⟩

theorem fill? (h : d.SameView e) (image : Image) :
    e.objects.fill? image = d.objects.fill? image :=
  fill?_congr (h.stored _ (isScenery_image image))

theorem texture (h : d.SameView e) (id : TextureId) :
    e.objects.textures.get? id = d.objects.textures.get? id :=
  textures_get?_congr (h.stored _ (isScenery_image (.texture id)))

theorem slot? (h : d.SameView e) (id : FramebufferId) (slot : Attachment) :
    e.slot? id slot = d.slot? id slot :=
  slot?_congr (h.stored _ ⟨nofun, nofun⟩) slot

theorem drawImage? (h : d.SameView e) (slot : Attachment) :
    e.drawImage? slot = d.drawImage? slot := by
  rw [Driver.drawImage?, Driver.drawImage?, h.draw]
  exact congrArg _ (funext fun id => h.slot? id slot)

/-- The same painting of the same view. -/
theorem paint (h : d.SameView e) (slot : Attachment) (g : Fill → Fill) :
    (d.paint slot g).SameView (e.paint slot g) := by
  refine ⟨?_, ?_, ?_, ?_, ?_, fun x hx => ?_⟩
  · rw [bindings_paint, bindings_paint, h.read]
  · rw [bindings_paint, bindings_paint, h.draw]
  · rw [pipeline_paint, pipeline_paint, h.colorMask]
  · rw [pipeline_paint, pipeline_paint, h.clearColor]
  · rw [display_paint, display_paint, h.draw, h.display]
  · rw [objects_paint, objects_paint, h.drawImage?]
    cases d.drawImage? slot with
    | none => exact h.stored x hx
    | some image => rw [stored?_modifyFill, stored?_modifyFill, h.stored x hx]

theorem paintColor (h : d.SameView e) (mask : ColorMask) (color : Pixel) :
    (d.paintColor mask color).SameView (e.paintColor mask color) := h.paint _ _

end SameView

/-- Counting is not seen. -/
theorem view_count (d : Driver) (statistics : Statistics) (lastCopy : Option CopyRecord) :
    d.SameView { d with statistics := statistics, lastCopy := lastCopy } :=
  ⟨rfl, rfl, rfl, rfl, rfl, fun _ _ => rfl⟩

theorem view_perform (d : Driver) {c : Call} (h : c.isUnseen = true) :
    d.SameView (d.perform c) := by
  obtain ⟨hq, hp, hf, hc⟩ := Call.isUnseen_iff.mp h
  have hpipeline : (d.perform c).pipeline.colorMask = d.pipeline.colorMask ∧
      (d.perform c).pipeline.clearColor = d.pipeline.clearColor := by
    cases hs : c.setsPipeline with
    | false =>
      rw [d.pipeline_perform hs]
      exact ⟨rfl, rfl⟩
    | true =>
      cases c with
      | colorMask mask => cases hc
      | clearColor color => cases hc
      | switch toggle on => cases toggle <;> exact ⟨rfl, rfl⟩
      | depthMask write => exact ⟨rfl, rfl⟩
      | swapInterval interval => exact ⟨rfl, rfl⟩
      | clearDepth depth => exact ⟨rfl, rfl⟩
      | clearStencil stencil => exact ⟨rfl, rfl⟩
      | _ => cases hs
  exact ⟨(d.framebuffers_perform hf).1, (d.framebuffers_perform hf).2, hpipeline.1, hpipeline.2,
    d.display_perform hp, fun x hx => stored?_perform_of_isQuiet hq hp hx.2⟩

/-! ## Colours on what is drawn to -/

/-- The driver after a colour, if any, was painted where the colour mask lets it through. -/
def brush (d : Driver) : Option Pixel → Driver
  | none => d
  | some color => d.paintColor d.pipeline.colorMask color

theorem SameView.brush (h : d.SameView e) (color? : Option Pixel) :
    (d.brush color?).SameView (e.brush color?) := by
  cases color? with
  | none => exact h
  | some color =>
    show (d.paintColor _ color).SameView (e.paintColor e.pipeline.colorMask color)
    rw [h.colorMask]
    exact h.paintColor _ color

/-- The driver `e` is `d` after a colour was painted, as far as it is seen: it is on what is drawn
to, in the channels that the colour mask leaves writable, and nowhere else. -/
structure Shows (d : Driver) (color : Pixel) (e : Driver) : Prop where
  read : e.bindings.read = d.bindings.read
  draw : e.bindings.draw = d.bindings.draw
  image : e.drawImage? .color = d.drawImage? .color
  colorMask : e.pipeline.colorMask = d.pipeline.colorMask
  display : e.display = if d.bindings.draw = none then
    { d.display with color := Channels.masked d.pipeline.colorMask color d.display.color }
    else d.display
  fill? : ∀ image, e.objects.fill? image = if d.drawImage? .color = some image then
    (d.objects.fill? image).map fun fill =>
      { fill with color := Channels.masked d.pipeline.colorMask color fill.color }
    else d.objects.fill? image

/-- Painting leaves framebuffers as they are. -/
theorem slot?_paint (d : Driver) (slot : Attachment) (g : Fill → Fill) (id : FramebufferId)
    (other : Attachment) : (d.paint slot g).slot? id other = d.slot? id other := by
  refine slot?_congr ?_ other
  rw [objects_paint]
  cases d.drawImage? slot with
  | none => rfl
  | some image =>
    rw [stored?_modifyFill, if_neg]
    intro he
    cases image <;> cases he

theorem drawImage?_paint (d : Driver) (slot : Attachment) (g : Fill → Fill) (other : Attachment) :
    (d.paint slot g).drawImage? other = d.drawImage? other := by
  rw [drawImage?, drawImage?, bindings_paint]
  exact congrArg _ (funext fun id => d.slot?_paint slot g id other)

/-- What a painting makes of the contents of each image. -/
theorem fill?_paint (d : Driver) (slot : Attachment) (g : Fill → Fill) (image : Image) :
    (d.paint slot g).objects.fill? image =
      if d.drawImage? slot = some image then (d.objects.fill? image).map g
      else d.objects.fill? image := by
  rw [objects_paint]
  cases d.drawImage? slot with
  | none => rfl
  | some target =>
    dsimp only
    rw [fill?_modifyFill]
    simp only [Option.some.injEq, eq_comm]

theorem shows_of_brush {color : Pixel} (h : (d.brush (some color)).SameView e) :
    d.Shows color e := by
  refine ⟨h.read.trans ?_, h.draw.trans ?_, (h.drawImage? .color).trans (drawImage?_paint ..),
    h.colorMask.trans ?_, h.display.trans (display_paint ..), fun image => ?_⟩
  · exact congrArg _ (bindings_paint ..)
  · exact congrArg _ (bindings_paint ..)
  · exact congrArg _ (pipeline_paint ..)
  · exact (h.fill? image).trans (fill?_paint ..)

/-- A strip paints what the program in use has to paint. -/
theorem view_drawStrip (d : Driver) {streams : List VertexStream} {count : Nat}
    (hs : streams ≠ []) (hn : 3 ≤ count) :
    (d.brush d.paintedColor?).SameView (d.perform (.drawStrip streams count)) := by
  have hfew : ¬ (count < 3 ∨ streams = []) := by
    rintro (h | h)
    · omega
    · exact hs h
  have hcount := d.view_count { d.statistics with draws := d.statistics.draws + 1 } d.lastCopy
  have hsame : paintedColor? { d with
      statistics := { d.statistics with draws := d.statistics.draws + 1 } } = d.paintedColor? := rfl
  show (d.brush d.paintedColor?).SameView (d.drawStrip streams count)
  unfold drawStrip
  rw [if_neg hfew]
  dsimp only
  rw [hsame]
  cases d.paintedColor? with
  | none => exact hcount
  | some color => exact hcount.brush (some color)

end Driver

end Compositor
