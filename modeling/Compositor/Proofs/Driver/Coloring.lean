import Compositor.Proofs.Driver.Viewing

/-!
# Colours of a driver

Of a driver its palette keeps what colours are painted with and the colour of every image. It says
what comes of clears, draws and copies as far as colours go, with no word on how they are done.

Two palettes resemble each other if they differ at most in alpha values, and in one image that is
set apart. The same painting keeps a resemblance, as long as the image set apart is neither the one
that is shown in the end nor a source of what is painted.
-/

namespace Compositor

/-- The channels of a colour without alpha. -/
def Channels.hue {α : Type} (c : Channels α) : α × α × α := (c.r, c.g, c.b)

namespace Channels

variable {α : Type}

/-- What a mask lets through of a hue depends on hues alone. -/
theorem hue_masked {new new' old old' : Channels α} (hn : new.hue = new'.hue)
    (ho : old.hue = old'.hue) (mask : Channels Bool) :
    (masked mask new old).hue = (masked mask new' old').hue := by
  simp only [hue, Prod.mk.injEq] at hn ho
  simp only [hue, masked, hn, ho]

/-- The mask that lets alpha through alone. -/
def alphaOnly : Channels Bool := ⟨false, false, false, true⟩

end Channels

/-- What colours are painted with, and the colour of each image that is live. -/
@[ext] structure Palette where
  mask : Channels Bool
  clear : Rgba
  color? : Image → Option Pixel

namespace Palette

/-- After a colour was painted on an image, if any, where a mask lets it through. -/
def paint (p : Palette) (mask : Channels Bool) (image? : Option Image) (color : Pixel) : Palette :=
  { p with
    color? := fun image =>
      if image? = some image then (p.color? image).map (Channels.masked mask color)
      else p.color? image }

/-- After a colour, if any, was painted on an image, if any, under the mask of the palette. -/
def brush (p : Palette) (image? : Option Image) : Option Pixel → Palette
  | none => p
  | some color => p.paint p.mask image? color

end Palette

open Numeric

namespace Driver

variable {d e : Driver}

def palette (d : Driver) : Palette where
  mask := d.pipeline.colorMask
  clear := d.pipeline.clearColor
  color? image := (d.objects.fill? image).map (·.color)

theorem SameView.palette (h : d.SameView e) : e.palette = d.palette := by
  rw [Driver.palette, Driver.palette, h.colorMask, h.clearColor, funext h.fill?]

theorem palette_paint (d : Driver) (slot : Attachment) {g : Fill → Fill}
    (hg : ∀ fill, (g fill).color = fill.color) : (d.paint slot g).palette = d.palette := by
  rw [palette, palette, pipeline_paint]
  refine Palette.ext rfl rfl (funext fun image => ?_)
  dsimp only
  rw [fill?_paint]
  split
  · simp [Option.map_map, Function.comp_def, hg]
  · rfl

theorem palette_paintColor (d : Driver) (mask : ColorMask) (color : Pixel) :
    (d.paintColor mask color).palette = d.palette.paint mask (d.drawImage? .color) color := by
  rw [paintColor, palette, pipeline_paint, Palette.paint]
  refine Palette.ext rfl rfl (funext fun image => ?_)
  dsimp only
  rw [fill?_paint]
  split
  · simp [palette, Option.map_map, Function.comp_def]
  · rfl

theorem palette_brush (d : Driver) (color? : Option Pixel) :
    (d.brush color?).palette = d.palette.brush (d.drawImage? .color) color? := by
  cases color? with
  | none => rfl
  | some color => exact d.palette_paintColor d.pipeline.colorMask color

theorem fill?_paintColor (d : Driver) (mask : ColorMask) (color : Pixel) (image : Image) :
    (d.paintColor mask color).objects.fill? image =
      if d.drawImage? .color = some image then
        (d.objects.fill? image).map fun fill =>
          { fill with color := Channels.masked mask color fill.color }
      else d.objects.fill? image :=
  d.fill?_paint ..

theorem slot?_paintColor (d : Driver) (mask : ColorMask) (color : Pixel) (id : FramebufferId)
    (slot : Attachment) : (d.paintColor mask color).slot? id slot = d.slot? id slot :=
  d.slot?_paint ..

/-- A clear of the colour alone leaves depth and stencil values. -/
theorem fill?_clear (d : Driver) (image : Image) :
    (d.clear .colorOnly).objects.fill? image =
      if d.drawImage? .color = some image then
        (d.objects.fill? image).map fun fill =>
          { fill with color :=
              Channels.masked d.pipeline.colorMask d.pipeline.clearColor.quantize fill.color }
      else d.objects.fill? image :=
  fill?_paintColor { d with statistics := _ } _ _ image

/-- A copy of the colour leaves depth and stencil values. -/
theorem fill?_copy (d : Driver) (source target : Rect) (filter : Filter) (image : Image) :
    (d.copy source target .colorOnly filter).objects.fill? image =
      if d.drawImage? .color = some image then
        (d.objects.fill? image).map fun fill => { fill with color := d.readFill.color }
      else d.objects.fill? image :=
  fill?_paintColor { d with statistics := _, lastCopy := _ } _ _ image

theorem slot?_clear (d : Driver) (id : FramebufferId) (slot : Attachment) :
    (d.clear .colorOnly).slot? id slot = d.slot? id slot :=
  slot?_paintColor { d with statistics := _ } _ _ id slot

theorem slot?_copy (d : Driver) (source target : Rect) (filter : Filter) (id : FramebufferId)
    (slot : Attachment) :
    (d.copy source target .colorOnly filter).slot? id slot = d.slot? id slot :=
  slot?_paintColor { d with statistics := _, lastCopy := _ } _ _ id slot

/-- A clear paints the clear colour if colours are cleared. -/
theorem palette_clear (d : Driver) (planes : Planes) :
    (d.clear planes).palette =
      if planes.color then
        d.palette.brush (d.drawImage? .color) (some d.palette.clear.quantize)
      else d.palette := by
  have hdepth (v : Driver) (b : Bool) (depth : Single) :
      (if b then v.paintDepth depth else v).palette = v.palette := by
    cases b with
    | false => rfl
    | true => exact v.palette_paint .depth (g := ({ · with depth := depth })) fun _ => rfl
  have hstencil (v : Driver) (b : Bool) (stencil : UInt8) :
      (if b then v.paintStencil stencil else v).palette = v.palette := by
    cases b with
    | false => rfl
    | true => exact v.palette_paint .stencil (g := ({ · with stencil := stencil })) fun _ => rfl
  unfold clear
  dsimp only
  rw [hstencil, hdepth]
  cases planes.color with
  | false => rfl
  | true => exact palette_paintColor { d with statistics := _ } _ _

end Driver

namespace Palette

/-! ## Resemblance -/

/-- The palettes are the same but for alpha values, and but for an image that is set apart. -/
structure Resembles (p q : Palette) (apart : Option Image) : Prop where
  mask : q.mask = p.mask
  clear : q.clear = p.clear
  hue : ∀ image, apart ≠ some image →
    (q.color? image).map Channels.hue = (p.color? image).map Channels.hue

variable {p q : Palette} {apart : Option Image}

theorem Resembles.refl (p : Palette) (apart : Option Image) : p.Resembles p apart :=
  ⟨rfl, rfl, fun _ _ => rfl⟩

/-- Colours of one hue, painted in both. -/
theorem Resembles.brush (h : p.Resembles q apart) (image? : Option Image)
    {color? color'? : Option Pixel}
    (hc : color'?.map Channels.hue = color?.map Channels.hue) :
    (p.brush image? color?).Resembles (q.brush image? color'?) apart := by
  cases color? with
  | none =>
    cases color'? with
    | none => exact h
    | some color' => cases hc
  | some color =>
    cases color'? with
    | none => cases hc
    | some color' =>
      have hcolor : color'.hue = color.hue := Option.some.inj hc
      refine ⟨h.mask, h.clear, fun image hi => ?_⟩
      have hold := h.hue image hi
      simp only [Palette.brush, paint, h.mask]
      split
      · cases hp : p.color? image with
        | none =>
          rw [hp, Option.map_none, Option.map_eq_none_iff] at hold
          rw [hold]
          rfl
        | some old =>
          rw [hp, Option.map_some, Option.map_eq_some_iff] at hold
          obtain ⟨old', hq, hhue⟩ := hold
          rw [hq]
          exact congrArg some (Channels.hue_masked hcolor hhue p.mask)
      · exact hold

end Palette

end Compositor
