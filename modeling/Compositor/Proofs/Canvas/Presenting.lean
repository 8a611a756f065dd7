import Compositor.Proofs.Canvas.Drawing
import Compositor.Proofs.Driver.Coloring

/-!
# Presenting

What the end of a frame shows: the colour of the image that was drawn to, in the channels that the
colour mask leaves writable, with depth and stencil values cleared. The colour goes from the image
to the texture of the set if they are not the same, and from the texture to the display.
-/

namespace Compositor

open Numeric

/-- A rectangle that covers a size is not degenerate, unless the size is empty. -/
theorem Rect.isDegenerate_ofSize {s : Size} (h : s.isEmpty = false) :
    (Rect.ofSize s.width s.height).isDegenerate = false := by
  have hpos : (0 : Int) < coordinateMax := by decide
  simp only [Size.isEmpty, Bool.or_eq_false_iff, decide_eq_false_iff_not] at h
  simp only [Rect.isDegenerate, Rect.width, Rect.height, Rect.ofSize, Bool.or_eq_false_iff]
  exact ⟨decide_eq_false (by omega), decide_eq_false (by omega)⟩

namespace BufferSet

/-- The framebuffer of a set that is bound: the one that frames are drawn to, or the one of the
texture if drawing was taken away to it. -/
def bound (s : BufferSet) (away : Bool) : FramebufferId := if away then s.framebuffer else s.target

/-- The image that is drawn to then. -/
def boundImage (s : BufferSet) (away : Bool) : Image :=
  if away then .texture s.texture else s.drawnImage

/-- The framebuffers of a set, as far as they are live, have the images of the set in their colour
slots. -/
def Hangs (s : BufferSet) (o : Objects) : Prop :=
  ∀ away f, o.framebuffers.get? (s.bound away) = some f → f.color = some (s.boundImage away)

/-- What a frame is drawn on and what it is shown with is there: the images that have its colour,
in the colour slots of the two framebuffers. -/
structure Wired (s : BufferSet) (o : Objects) : Prop where
  texture : ∃ fill, o.fill? (.texture s.texture) = some fill
  drawnImage : ∃ fill, o.fill? s.drawnImage = some fill
  slot : ∀ away, (o.framebuffers.get? (s.bound away)).bind (·.slot .color) =
    some (s.boundImage away)

namespace Wired

variable {s : BufferSet} {d : Driver}

theorem drawImage?_eq (h : s.Wired d.objects) (away : Bool)
    (hd : d.bindings.draw = some (s.bound away)) :
    d.drawImage? .color = some (s.boundImage away) := by
  rw [Driver.drawImage?, hd]
  exact h.slot away

theorem color_readFill (h : s.Wired d.objects) (away : Bool)
    (hd : d.bindings.read = some (s.bound away)) {fill : Fill}
    (hfill : d.objects.fill? (s.boundImage away) = some fill) : d.readFill.color = fill.color := by
  have hslot : d.slot? (s.bound away) .color = some (s.boundImage away) := h.slot away
  simp [Driver.readFill, hd, hslot, hfill]

end Wired

namespace Intact

variable {s : BufferSet} {limit : Nat} {o : Objects}

theorem hangs (h : s.Intact limit o) : s.Hangs o := by
  intro away f hf
  cases away with
  | false =>
    rw [show s.bound false = s.target from rfl,
      Objects.get?_of_outline_framebuffer h.target_outline] at hf
    cases hf
    rfl
  | true =>
    rw [show s.bound true = s.framebuffer from rfl,
      Objects.get?_of_outline_framebuffer h.framebuffer_outline] at hf
    cases hf
    rw [shownSlots]
    cases hm : s.multisample with
    | none =>
      show some s.drawnImage = _
      rw [drawnImage, hm]
      rfl
    | some m => rfl

end Intact

theorem handle_drawnImage_mem (s : BufferSet) : s.drawnImage.handle ∈ s.handles := by
  have hcolor : s.drawnSlots.slot .color = some s.drawnImage := rfl
  exact s.mem_handles_of_drawnSlots hcolor

theorem handle_texture_mem (s : BufferSet) : s.texture.handle ∈ s.handles := by
  simp [handles, parts, Part.handle]

theorem handle_bound_mem (s : BufferSet) (away : Bool) : (s.bound away).handle ∈ s.handles := by
  cases away with
  | false =>
    rw [show s.bound false = s.target from rfl, target]
    cases hm : s.multisample <;> simp [handles, parts, hm, Part.handle]
  | true => simp [bound, handles, parts, Part.handle]

/-- A set whose parts are live and in their places. -/
theorem Hangs.wired {s : BufferSet} {o : Objects} (h : s.Hangs o)
    (hl : ∀ x ∈ s.handles, o.Live x) : s.Wired o where
  texture := o.exists_fill? (hl _ s.handle_texture_mem)
  drawnImage := o.exists_fill? (hl _ s.handle_drawnImage_mem)
  slot away := by
    have hlive := hl _ (s.handle_bound_mem away)
    rw [Objects.Live, Objects.stored?_framebuffer, ne_eq, Option.map_eq_none_iff,
      ← ne_eq, Option.ne_none_iff_exists'] at hlive
    obtain ⟨f, hf⟩ := hlive
    rw [hf]
    exact h away f hf

theorem Intact.wired {s : BufferSet} {limit : Nat} {o : Objects} (h : s.Intact limit o) :
    s.Wired o :=
  h.hangs.wired fun _ => h.live

end BufferSet

/-- What the end of a frame clears before it shows the texture. -/
theorem Device.display_showingCalls (d : Device) :
    let e := d.performAll Canvas.showingCalls
    e.driver.objects = d.driver.objects ∧ e.driver.bindings.draw = none ∧
      e.driver.pipeline.colorMask = d.driver.pipeline.colorMask ∧
      e.driver.display = ⟨d.driver.display.color,
        if d.driver.pipeline.depthMask then Binary.ofNat 1 else d.driver.display.depth, 0⟩ := by
  simp only [Canvas.showingCalls, performAll_cons, performAll_nil, driver_perform, Driver.perform,
    Driver.clear, Planes.depthStencil, Bool.true_and, Bool.false_eq_true, if_false, if_true,
    Bindings.bindFramebuffer]
  cases d.driver.pipeline.depthMask <;> exact ⟨rfl, rfl, rfl, rfl⟩

/-- The driver with a framebuffer to read from and one to draw to. -/
def Driver.between (d : Driver) (read draw : FramebufferId) : Driver :=
  { d with bindings := { d.bindings with read := some read, draw := some draw } }

namespace Canvas

variable {c : Canvas} {set : BufferSet} {limit : Nat} {context : Context}

/-- Resolving copies from the framebuffer of the samples to that of the texture. -/
theorem driver_resolve (c : Canvas) {m : MultisampleTarget} (hm : set.multisample = some m) :
    (c.resolve set).device.driver =
      (c.device.driver.between m.framebuffer set.framebuffer).copy
        (.ofSize set.layout.size.width set.layout.size.height)
        (.ofSize set.layout.size.width set.layout.size.height) .colorOnly .nearest := by
  rw [resolve, hm]
  rfl

/-- Resolving happens offscreen. -/
theorem frame_resolve (c : Canvas) (set : BufferSet) :
    (c.resolve set).device.driver.pipeline = c.device.driver.pipeline ∧
      (c.resolve set).device.driver.display = c.device.driver.display ∧
      (c.resolve set).statistics = { c.statistics with
        resolves := c.statistics.resolves + if set.multisample.isSome then 1 else 0 } := by
  cases hm : set.multisample with
  | none =>
    rw [resolve, hm]
    exact ⟨rfl, rfl, rfl⟩
  | some m =>
    rw [c.driver_resolve hm, resolve, hm]
    refine ⟨?_, ?_, rfl⟩
    · exact (c.device.driver.between m.framebuffer set.framebuffer).pipeline_perform
        (c := .copy ..) rfl
    · exact (c.device.driver.between m.framebuffer set.framebuffer).display_perform_offscreen
        (.copy ..) nofun

theorem slot?_resolve (c : Canvas) (set : BufferSet) (id : FramebufferId) (slot : Attachment) :
    (c.resolve set).device.driver.slot? id slot = c.device.driver.slot? id slot := by
  cases hm : set.multisample with
  | none => rw [resolve, hm]
  | some m =>
    rw [c.driver_resolve hm]
    exact Driver.slot?_copy _ _ _ _ id slot

/-- Resolving gives the texture the colour of the image that was drawn to, and changes nothing else
of any image. -/
theorem fill?_resolve (hw : set.Wired c.device.driver.objects) {fill : Fill}
    (hfill : c.device.driver.objects.fill? set.drawnImage = some fill) (image : Image) :
    (c.resolve set).device.driver.objects.fill? image =
      if image = .texture set.texture then
        (c.device.driver.objects.fill? image).map ({ · with color := fill.color })
      else c.device.driver.objects.fill? image := by
  cases hm : set.multisample with
  | none =>
    -- the image is the texture
    rw [resolve, hm]
    rw [BufferSet.drawnImage, hm] at hfill
    dsimp only
    split
    · rename_i he
      rw [he, hfill]
      rfl
    · rfl
  | some m =>
    have htarget : set.bound false = m.framebuffer := by
      show set.target = _
      rw [BufferSet.target, hm]
    have hread : (c.device.driver.between m.framebuffer set.framebuffer).readFill.color =
        fill.color :=
      hw.color_readFill (d := c.device.driver.between m.framebuffer set.framebuffer) false
        (by rw [htarget]; rfl) hfill
    have hdraw : (c.device.driver.between m.framebuffer set.framebuffer).drawImage? .color =
        some (.texture set.texture) :=
      hw.drawImage?_eq (d := c.device.driver.between m.framebuffer set.framebuffer) true rfl
    rw [c.driver_resolve hm, Driver.fill?_copy, hread, hdraw]
    simp only [Option.some.injEq, eq_comm (b := image)]
    rfl

/-- After resolving the texture has the colour of the image that was drawn to. -/
theorem color_resolve (hi : set.Intact limit c.device.driver.objects) :
    ∃ fill t, c.device.driver.objects.fill? set.drawnImage = some fill ∧
      (c.resolve set).device.driver.objects.textures.get? set.texture = some t ∧
        t.fill.color = fill.color := by
  obtain ⟨fill, hfill⟩ := hi.wired.drawnImage
  obtain ⟨shown, hshown⟩ := hi.wired.texture
  have hresolved := fill?_resolve hi.wired hfill (.texture set.texture)
  rw [if_pos rfl, hshown, Option.map_some] at hresolved
  obtain ⟨t, ht, hcolor⟩ := Option.map_eq_some_iff.mp hresolved
  exact ⟨fill, t, hfill, ht, by rw [hcolor]⟩

/-- A draw by itself counts nothing but what is left out. -/
theorem statistics_draw {purpose : Purpose} {calls? : BuiltProgram → Option (List Call)}
    (h : (c.draw purpose context calls?).1 = true) :
    (c.draw purpose context calls?).2.statistics = c.statistics := by
  obtain ⟨entry, programs, device, -, ⟨-, hd⟩ | ⟨p, calls, -, -, hd⟩⟩ :=
    c.draw_cases purpose context calls?
  · rw [hd] at h
    cases h
  · rw [hd]

/-- A texture drawn over the display with a program that did not fail shows there. -/
theorem display_drawPatch (hr : c.device.driver.objects.Regular) (hl : context.isLive = true)
    (hc : c.programs.IsLive) (hs : c.programs.Serves context c.device.driver.objects)
    (hd : c.device.driver.bindings.draw = none) (surface : Size) (patch : TexturePatch)
    {t : Texture} (ht : c.device.driver.objects.textures.get? patch.texture = some t)
    (hn : (surface.isEmpty || patch.textureSize.isEmpty || patch.region.isDegenerate) = false)
    (hf : (c.drawPatch context surface patch).2.programs.failure? (.textured patch.target) = none) :
    (c.drawPatch context surface patch).1 = true ∧
      (c.drawPatch context surface patch).2.statistics = c.statistics ∧
      (c.drawPatch context surface patch).2.device.driver.display =
        { c.device.driver.display with
          color := Channels.masked c.device.driver.pipeline.colorMask t.fill.color
            c.device.driver.display.color } := by
  have hpaints := paints_drawPatch hr (hs.provides hc hl _) hn
  have hcount : (c.drawPatch context surface patch).1 = true →
      (c.drawPatch context surface patch).2.statistics = c.statistics := by
    unfold drawPatch
    rw [if_neg (by rw [hn]; exact Bool.false_ne_true)]
    exact statistics_draw
  rw [textureColor?, ht] at hpaints
  rcases he : c.drawPatch context surface patch with ⟨drawn, c'⟩
  rw [he] at hpaints hf hcount
  cases hpaints with
  | left hcached _ _ =>
    rw [ProgramCache.failure?, hcached] at hf
    cases hf
  | done _ _ _ hview =>
    refine ⟨rfl, hcount rfl, ?_⟩
    rw [(Driver.shows_of_brush hview).display, if_pos hd]

/-- What is to be seen and counted after the end of a frame on a set whose drawn image had the
contents `fill`. -/
structure Presents (c : Canvas) (set : BufferSet) (fill : Fill) (c' : Canvas) : Prop where
  display : c'.device.driver.display =
    { color := Channels.masked c.device.driver.pipeline.colorMask fill.color
        c.device.driver.display.color
      depth := if c.device.driver.pipeline.depthMask then Binary.ofNat 1
        else c.device.driver.display.depth
      stencil := 0 }
  statistics : c'.statistics = { c.statistics with
    resolves := c.statistics.resolves + if set.multisample.isSome then 1 else 0
    presents := c.statistics.presents + 1 }
  read : c'.device.driver.bindings.read = some set.framebuffer
  draw : c'.device.driver.bindings.draw = some set.framebuffer
  screen : c'.backing.screen? = some set.framebuffer

/-- The end of a frame shows the colour of the image that was drawn to, unless the program for that
failed. -/
theorem presents_endFrame (hr : c.device.driver.objects.Regular) (hl : context.isLive = true)
    (hc : c.programs.IsLive) (hs : c.programs.Serves context c.device.driver.objects)
    (hset : c.backing.set? = some set) (hi : set.Intact limit c.device.driver.objects)
    {surface : Size} (hsurface : surface.isEmpty = false)
    (hlayout : set.layout.size.isEmpty = false)
    (hf : (c.endFrame surface context).programs.failure? (.textured .texture2d) = none) :
    ∃ fill, c.device.driver.objects.fill? set.drawnImage = some fill ∧
      c.Presents set fill (c.endFrame surface context) := by
  obtain ⟨fill, t, hfill, ht, hcolor⟩ := color_resolve hi
  refine ⟨fill, hfill, ?_⟩
  obtain ⟨hpipeline, hdisplay, hstatistics⟩ := c.frame_resolve set
  obtain ⟨hobjects, hdraw, hmask, hprepared⟩ := (c.resolve set).device.display_showingCalls
  have hidle := idles_showingCalls hr set
  have hpresented : (c.present set surface context).2.programs.failure? (.textured .texture2d) =
      none := by
    rw [endFrame_of_set hset] at hf
    exact hf
  rw [present, programs_countDone] at hpresented
  rw [endFrame_of_set hset, present]
  -- the canvas on which the texture is drawn
  generalize hc₁ : (c.resolve set).performAll showingCalls = c₁ at hpresented hidle ⊢
  have hdevice : c₁.device = (c.resolve set).device.performAll showingCalls := by
    rw [← hc₁]
    rfl
  have hcount : c₁.statistics = (c.resolve set).statistics := by
    rw [← hc₁]
    rfl
  rw [← hdevice] at hobjects hdraw hmask hprepared
  have hr₁ := hidle.grows.regular hr
  have hlive₁ : c₁.programs.IsLive := by
    rw [ProgramCache.IsLive, hidle.entries]
    exact hc
  have hserves₁ : c₁.programs.Serves context c₁.device.driver.objects :=
    (ProgramCache.Gains.found hidle.entries).serves hs fun x => hidle.grows.outline_of_live hr
  have htexture : c₁.device.driver.objects.textures.get? set.texture = some t := by
    rw [hobjects]
    exact ht
  obtain ⟨new, hw⟩ := works_drawPatch hr₁ context surface
    (.corner set.texture set.layout.size surface.width surface.height)
  have hshown := display_drawPatch hr₁ hl hlive₁ hserves₁ hdraw surface
    (.corner set.texture set.layout.size surface.width surface.height) htexture
    (by
      simp only [TexturePatch.corner, hsurface, hlayout, Rect.isDegenerate_ofSize hsurface]
      rfl)
  rcases hd : c₁.drawPatch context surface
    (.corner set.texture set.layout.size surface.width surface.height) with ⟨drawn, c₂⟩
  rw [hd] at hpresented hshown hw
  obtain ⟨rfl, hstatistics₂, hdisplay₂⟩ := hshown hpresented
  dsimp only at hstatistics₂ hdisplay₂ hw ⊢
  refine ⟨?_, ?_, rfl, rfl, Backing.screen?_focusOn_color (hw.set.trans (hidle.set.trans hset))⟩
  · show c₂.device.driver.display = _
    rw [hdisplay₂, hprepared, hmask, hpipeline, hdisplay, hcolor]
  · show CanvasStatistics.mk _ (c₂.statistics.presents + 1) _ _ _ = _
    rw [hstatistics₂, hcount, hstatistics]

end Canvas

end Compositor
