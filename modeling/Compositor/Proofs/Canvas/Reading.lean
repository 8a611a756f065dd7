import Compositor.Proofs.Canvas.Presenting

/-!
# Reading back

What making the colour of a set readable does. The texture of the set gets the colour that was drawn
so far, with alpha made opaque; the mask lets everything through and the clear colour is opaque
black from then on, and the framebuffer of the texture is bound.
-/

namespace Compositor

open Numeric

/-- The palette after the colour drawn to a set was made readable. -/
def Palette.read (p : Palette) (set : BufferSet) : Palette where
  mask := Channels.all true
  clear := .opaqueBlack
  color? image :=
    if image = .texture set.texture then
      (p.color? set.drawnImage).map (Channels.masked .alphaOnly Rgba.opaqueBlack.quantize)
    else p.color? image

namespace Canvas

variable {c : Canvas} {set : BufferSet} {limit : Nat}

theorem device_readback (hset : c.backing.set? = some set) :
    c.readback.2.device =
      ((c.resolve set).device.perform (.bindFramebuffer .both (some set.framebuffer))).performAll
        [.colorMask .alphaOnly, .clearColor .opaqueBlack, .clear .colorOnly,
          .colorMask (Channels.all true)] := by
  rw [readback_of_set hset]
  rfl

theorem screen_readback (hset : c.backing.set? = some set) :
    c.readback.1 = some set.framebuffer ∧ c.readback.2.backing.set? = some set ∧
      c.readback.2.backing.screen? = some set.framebuffer := by
  have hresolve : (c.resolve set).backing.set? = some set := by
    rw [← hset, resolve]
    cases set.multisample <;> rfl
  rw [readback_of_set hset]
  exact ⟨rfl, by rw [Backing.set?_focusOn, hresolve], Backing.screen?_focusOn_color hresolve⟩

/-- The driver when alpha is cleared. -/
def beforeClear (c : Canvas) (set : BufferSet) : Driver :=
  { (c.resolve set).device.driver with
    bindings :=
      (c.resolve set).device.driver.bindings.bindFramebuffer (some set.framebuffer) .both
    pipeline := { (c.resolve set).device.driver.pipeline with
      colorMask := .alphaOnly, clearColor := .opaqueBlack } }

theorem driver_readback (hset : c.backing.set? = some set) :
    c.readback.2.device.driver =
      ((c.beforeClear set).clear .colorOnly).perform (.colorMask (Channels.all true)) := by
  rw [device_readback hset]
  rfl

/-- The texture gets the colour of the drawn image, with alpha made opaque, and no other image
changes. -/
theorem fill?_readback (hset : c.backing.set? = some set)
    (hw : set.Wired c.device.driver.objects) {fill : Fill}
    (hfill : c.device.driver.objects.fill? set.drawnImage = some fill) (image : Image) :
    c.readback.2.device.driver.objects.fill? image =
      if image = .texture set.texture then
        (c.device.driver.objects.fill? image).map
          ({ · with color := Channels.masked .alphaOnly Rgba.opaqueBlack.quantize fill.color })
      else c.device.driver.objects.fill? image := by
  have hdraw : (c.beforeClear set).drawImage? .color = some (.texture set.texture) := by
    have hslot := c.slot?_resolve set set.framebuffer .color
    exact hslot.trans (hw.slot true)
  have hclear := (c.beforeClear set).fill?_clear image
  have hbefore : (c.beforeClear set).objects.fill? image = _ := fill?_resolve hw hfill image
  rw [driver_readback hset]
  refine hclear.trans ?_
  rw [hdraw, hbefore]
  by_cases he : image = .texture set.texture
  · simp [he, Option.map_map, Function.comp_def, beforeClear]
  · simp [he, Ne.symm he]

/-- The parts of the set stay where they are. -/
theorem wired_readback (hset : c.backing.set? = some set)
    (hw : set.Wired c.device.driver.objects) :
    set.Wired c.readback.2.device.driver.objects := by
  obtain ⟨fill, hfill⟩ := hw.drawnImage
  have hkeeps {image : Image} (hi : ∃ shown, c.device.driver.objects.fill? image = some shown) :
      ∃ shown, c.readback.2.device.driver.objects.fill? image = some shown := by
    obtain ⟨shown, hshown⟩ := hi
    rw [fill?_readback hset hw hfill, hshown]
    split
    · exact ⟨_, rfl⟩
    · exact ⟨_, rfl⟩
  refine ⟨hkeeps hw.texture, hkeeps hw.drawnImage, fun away => ?_⟩
  rw [← hw.slot away, driver_readback hset]
  have hcleared := (c.beforeClear set).slot?_clear (set.bound away) .color
  exact hcleared.trans (c.slot?_resolve set (set.bound away) .color)

/-- From then on every channel is written and colours are cleared to opaque black. -/
theorem pipeline_readback (hset : c.backing.set? = some set) :
    c.readback.2.device.driver.pipeline = { c.device.driver.pipeline with
      colorMask := Channels.all true, clearColor := .opaqueBlack } := by
  have hclear := (c.beforeClear set).pipeline_perform (c := .clear .colorOnly) rfl
  have hbefore : (c.beforeClear set).pipeline = { c.device.driver.pipeline with
      colorMask := .alphaOnly, clearColor := .opaqueBlack } := by
    rw [beforeClear, (c.frame_resolve set).1]
  have hpipeline : c.readback.2.device.driver.pipeline =
      { ((c.beforeClear set).clear .colorOnly).pipeline with colorMask := Channels.all true } := by
    rw [driver_readback hset]
    rfl
  rw [hpipeline, show ((c.beforeClear set).clear .colorOnly).pipeline = _ from hclear, hbefore]

theorem palette_readback (hset : c.backing.set? = some set)
    (hi : set.Intact limit c.device.driver.objects) :
    c.readback.2.device.driver.palette = c.device.driver.palette.read set := by
  obtain ⟨fill, hfill⟩ := hi.wired.drawnImage
  obtain ⟨shown, hshown⟩ := hi.wired.texture
  have himage := fill?_readback hset hi.wired hfill
  rw [Driver.palette, pipeline_readback hset]
  refine Palette.ext rfl rfl (funext fun image => ?_)
  dsimp only [Driver.palette, Palette.read]
  rw [himage]
  by_cases he : image = .texture set.texture <;> simp [he, hshown, hfill]

/-- Reading back binds the framebuffer of the texture and does not reach the display. -/
theorem stage_readback (hset : c.backing.set? = some set) :
    c.readback.2.device.driver.bindings.read = some set.framebuffer ∧
      c.readback.2.device.driver.bindings.draw = some set.framebuffer ∧
      c.readback.2.device.driver.display = c.device.driver.display := by
  obtain ⟨-, hresolved, -⟩ := c.frame_resolve set
  have hcalls : ∀ call ∈ [Call.colorMask .alphaOnly, .clearColor .opaqueBlack, .clear .colorOnly,
      .colorMask (Channels.all true)], call.setsFramebuffer = false := by
    simp [Call.setsFramebuffer]
  obtain ⟨hread, hdraw, hdisplay⟩ := Device.stage_performAll
    ((c.resolve set).device.perform (.bindFramebuffer .both (some set.framebuffer))) hcalls
  rw [device_readback hset]
  exact ⟨hread, hdraw, (hdisplay (Option.some_ne_none _)).trans hresolved⟩

/-! ## Sampling what was read back -/

theorem sampleColor_eq (c : Canvas) (surface : Size) (x y : Nat) :
    (c.sampleColor surface x y).1 =
      if x < surface.width ∧ y < surface.height then some c.device.driver.readFill.color
      else none := by
  by_cases h : x < surface.width ∧ y < surface.height
  · simp [sampleColor, sample, Size.contains, flipRow?, Device.readColor, h]
  · have hout : surface.contains x y = false := by
      simpa [Size.contains] using h
    simp [sampleColor, sample, hout, h]

/-- The colour that is read then. -/
theorem color_readFill_readback (hset : c.backing.set? = some set)
    (hw : set.Wired c.device.driver.objects) {fill : Fill}
    (hfill : c.device.driver.objects.fill? set.drawnImage = some fill) :
    c.readback.2.device.driver.readFill.color =
      Channels.masked .alphaOnly Rgba.opaqueBlack.quantize fill.color := by
  obtain ⟨shown, hshown⟩ := hw.texture
  have htexture := fill?_readback hset hw hfill (.texture set.texture)
  rw [if_pos rfl, hshown, Option.map_some] at htexture
  exact (wired_readback hset hw).color_readFill true (stage_readback hset).1 htexture

/-- Reading back once more changes no image. -/
theorem fill?_readback_again (hset : c.backing.set? = some set)
    (hw : set.Wired c.device.driver.objects) (image : Image) :
    c.readback.2.readback.2.device.driver.objects.fill? image =
      c.readback.2.device.driver.objects.fill? image := by
  obtain ⟨drawn, hdrawn⟩ := hw.drawnImage
  have hfirst := fill?_readback hset hw hdrawn
  have hset' := (screen_readback hset).2.1
  have hw' := wired_readback hset hw
  -- the drawn image has the same red, green and blue as before
  obtain ⟨drawn', hdrawn', hcolor⟩ : ∃ drawn',
      c.readback.2.device.driver.objects.fill? set.drawnImage = some drawn' ∧
        Channels.masked .alphaOnly Rgba.opaqueBlack.quantize drawn'.color =
          Channels.masked .alphaOnly Rgba.opaqueBlack.quantize drawn.color := by
    rw [hfirst, hdrawn]
    split
    · exact ⟨_, rfl, rfl⟩
    · exact ⟨_, rfl, rfl⟩
  rw [fill?_readback hset' hw' hdrawn', hcolor, hfirst]
  by_cases he : image = .texture set.texture
  · simp [he, Option.map_map, Function.comp_def]
  · simp [he]

end Canvas

end Compositor
