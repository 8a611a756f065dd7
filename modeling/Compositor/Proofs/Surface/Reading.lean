import Compositor.Proofs.Canvas.Reading
import Compositor.Proofs.Surface.Presenting

/-!
# Reading back in a frame

Making the colour of a frame readable while it is drawn is not seen in what the frame shows, as far
as red, green and blue go, but for one thing: the colour mask and the clear colour are set by it and
stay so. A frame with readbacks shows what the same frame shows with these two settings made in
their place.

With several samples that holds of what is drawn before a readback, and of what is drawn after it
once the framebuffer of the samples is bound again. The texture of the set changes with each
readback, so it must not be drawn after one.

What a frame does to colours is followed on an easel: the palette of the driver, and which of the
two images of the set is painted. Two easels are compared step by step.
-/

namespace Compositor

open Numeric

/-! ## Steps -/

namespace Surface

/-- A step of a frame: something is drawn, its colour is made readable, or the framebuffer that
frames are drawn to is bound again. -/
inductive Step where
  | stroke (x : Stroke)
  | readback
  | rebind

namespace Stroke

/-- Whether colours are painted. -/
def paintsColor : Stroke → Bool
  | clear planes => planes.color
  | fill .. | drawTexture _ => true
  | _ => false

/-- The texture that is drawn. -/
def texture? : Stroke → Option TextureId
  | drawTexture patch => some patch.texture
  | _ => none

end Stroke

/-- The surface after a step. -/
def take (s : Surface) : Step → Surface
  | .stroke x => s.stroke x
  | .readback => s.operate .readback
  | .rebind => s.undergo (.call (.bindFramebuffer .both (s.canvas.backing.set?.map (·.target))))

/-- The steps with the two settings in the place of a readback. -/
def Step.plain : Step → List Step
  | readback => [.stroke (.colorMask (Channels.all true)), .stroke (.clearColor .opaqueBlack)]
  | step => [step]

/-- Steps on a set of several samples that keep to what a readback leaves: `away` says that the
framebuffer of the texture is bound, so no colour is to be painted, and `resolved` that the texture
has changed, so it is not to be drawn. -/
def Heeds (set : BufferSet) : (away resolved : Bool) → List Step → Prop
  | _, _, [] => True
  | away, resolved, .stroke x :: steps =>
    (away = true → x.paintsColor = false) ∧ (resolved = true → x.texture? ≠ some set.texture) ∧
      Heeds set away resolved steps
  | _, _, .readback :: steps => Heeds set true true steps
  | _, resolved, .rebind :: steps => Heeds set false resolved steps

end Surface

/-! ## Easels -/

open Surface

/-- The palette after a stroke on an image, on a surface of a size. -/
def Palette.stroke (p : Palette) (size : Size) (image : Image) : Stroke → Palette
  | .clear planes => if planes.color then p.brush (some image) (some p.clear.quantize) else p
  | .clearColor color => { p with clear := color }
  | .colorMask mask => { p with mask := mask }
  | .fill color region =>
    if size.isEmpty || region.isDegenerate then p
    else p.brush (some image) (some color.quantize)
  | .drawTexture patch =>
    if size.isEmpty || patch.textureSize.isEmpty || patch.region.isDegenerate then p
    else p.brush (some image) (p.color? (.texture patch.texture))
  | .clearDepth _ | .clearStencil _ | .depthMask _ | .switch .. => p

/-- What a frame is drawn with and drawn on. -/
structure Easel where
  palette : Palette
  /-- Whether the image of the texture is drawn to instead of the image of the samples. -/
  away : Bool

/-- The easel after a step. -/
def Easel.take (set : BufferSet) (size : Size) (e : Easel) : Step → Easel
  | .stroke x => { e with palette := e.palette.stroke size (set.boundImage e.away) x }
  | .readback => ⟨e.palette.read set, true⟩
  | .rebind => { e with away := false }

/-- What a frame shows if every channel is let through in the end. -/
def Easel.Shows (e : Easel) (set : BufferSet) (color : Pixel) : Prop :=
  e.palette.mask = Channels.all true ∧ e.palette.color? set.drawnImage = some color

instance (e : Easel) (set : BufferSet) (color : Pixel) : Decidable (e.Shows set color) :=
  inferInstanceAs (Decidable (_ ∧ _))

/-! ## Comparing easels -/

namespace Palette

variable {p q : Palette} {apart : Option Image} {x : Stroke}

/-- Strokes keep a resemblance, if the texture they draw is not set apart. -/
theorem Resembles.stroke (h : p.Resembles q apart)
    (ht : ∀ id, x.texture? = some id → apart ≠ some (.texture id)) (size : Size) (image : Image) :
    (p.stroke size image x).Resembles (q.stroke size image x) apart := by
  cases x with
  | clear planes =>
    simp only [Palette.stroke]
    split
    · exact h.brush _ (by rw [h.clear])
    · exact h
  | clearColor color => exact ⟨h.mask, rfl, h.hue⟩
  | colorMask mask => exact ⟨rfl, h.clear, h.hue⟩
  | fill color region =>
    simp only [Palette.stroke]
    split
    · exact h
    · exact h.brush _ rfl
  | drawTexture patch =>
    simp only [Palette.stroke]
    split
    · exact h
    · exact h.brush _ (h.hue _ (ht _ rfl))
  | clearDepth depth => exact h
  | clearStencil stencil => exact h
  | depthMask write => exact h
  | switch toggle on => exact h

/-- Where no colour is painted it makes no difference what is drawn to. -/
theorem stroke_of_not_paintsColor (hx : x.paintsColor = false) (size : Size)
    (image other : Image) : p.stroke size image x = p.stroke size other x := by
  cases x with
  | clear planes =>
    have hc : planes.color = false := hx
    simp only [Palette.stroke, hc, Bool.false_eq_true, if_false]
  | fill color region => cases hx
  | drawTexture patch => cases hx
  | clearColor color => rfl
  | colorMask mask => rfl
  | clearDepth depth => rfl
  | clearStencil stencil => rfl
  | depthMask write => rfl
  | switch toggle on => rfl

end Palette

namespace BufferSet

/-- The image that readbacks change in more than alpha: the texture of a set of several samples. -/
def resolvedImage? (s : BufferSet) (resolved : Bool) : Option Image :=
  if s.multisample.isSome && resolved then some (.texture s.texture) else none

variable {s : BufferSet}

/-- What is shown in the end is never set apart. -/
theorem resolvedImage?_ne (s : BufferSet) (resolved : Bool) :
    s.resolvedImage? resolved ≠ some s.drawnImage := by
  unfold resolvedImage? drawnImage
  cases s.multisample with
  | none => exact nofun
  | some m => cases resolved <;> exact nofun

theorem resolvedImage?_of_single (h : s.multisample = none) (resolved : Bool) :
    s.resolvedImage? resolved = none := by
  rw [resolvedImage?, h]
  rfl

/-- With one sample there is but one image. -/
theorem boundImage_of_single (h : s.multisample = none) (away : Bool) :
    s.boundImage away = s.drawnImage := by
  cases away with
  | false => rfl
  | true =>
    rw [drawnImage, h]
    rfl

end BufferSet

namespace Palette

variable {p q : Palette} {set : BufferSet}

/-- A readback and the two settings. -/
theorem Resembles.read {resolved : Bool} (h : p.Resembles q (set.resolvedImage? resolved)) :
    (p.read set).Resembles { q with mask := Channels.all true, clear := .opaqueBlack }
      (set.resolvedImage? true) := by
  refine ⟨rfl, rfl, fun image hi => ?_⟩
  have hdrawn := h.hue set.drawnImage (set.resolvedImage?_ne resolved)
  simp only [Palette.read]
  split
  · rename_i he
    subst he
    cases hm : set.multisample with
    | none =>
      have himage : set.drawnImage = .texture set.texture := by rw [BufferSet.drawnImage, hm]
      rw [himage] at hdrawn ⊢
      rw [hdrawn, Option.map_map]
      rfl
    | some m =>
      rw [BufferSet.resolvedImage?, hm] at hi
      exact absurd rfl hi
  · rename_i he
    refine h.hue image fun hr => he ?_
    unfold BufferSet.resolvedImage? at hr
    split at hr
    · exact (Option.some.inj hr).symm
    · cases hr

end Palette

/-- The same steps with and without readbacks leave palettes that resemble each other. -/
theorem Easel.resembles_steps (set : BufferSet) (size : Size) (steps : List Step) (e : Easel)
    (q : Palette) (resolved : Bool)
    (hs : set.multisample.isSome = true → Heeds set e.away resolved steps)
    (h : e.palette.Resembles q (set.resolvedImage? resolved)) :
    ∃ resolved', (steps.foldl (Easel.take set size) e).palette.Resembles
      ((steps.flatMap Step.plain).foldl (Easel.take set size) ⟨q, false⟩).palette
        (set.resolvedImage? resolved') := by
  induction steps generalizing e q resolved with
  | nil => exact ⟨resolved, h⟩
  | cons x steps ih =>
    cases x with
    | stroke x =>
      have hstroke : (e.palette.stroke size (set.boundImage e.away) x).Resembles
          (q.stroke size set.drawnImage x) (set.resolvedImage? resolved) := by
        cases hm : set.multisample with
        | none =>
          rw [BufferSet.boundImage_of_single hm, BufferSet.resolvedImage?_of_single hm] at *
          exact h.stroke nofun size set.drawnImage
        | some m =>
          obtain ⟨haway, htexture, -⟩ := hs (by rw [hm]; rfl)
          have himage : e.palette.stroke size (set.boundImage e.away) x =
              e.palette.stroke size set.drawnImage x := by
            cases ha : e.away with
            | false => rfl
            | true => exact Palette.stroke_of_not_paintsColor (haway ha) size _ _
          rw [himage]
          refine h.stroke (fun id hid hr => ?_) size set.drawnImage
          unfold BufferSet.resolvedImage? at hr
          split at hr
          · rename_i hresolved
            rw [Bool.and_eq_true] at hresolved
            refine htexture hresolved.2 ?_
            cases hr
            exact hid
          · cases hr
      exact ih _ _ _ (fun hm => (hs hm).2.2) hstroke
    | readback => exact ih _ _ _ hs h.read
    | rebind => exact ih _ _ _ hs h

/-! ## A frame and its easel -/

/-- After a draw that no failure stands against, its colour is on what is drawn to. -/
theorem Canvas.Paints.palette {c c' : Canvas} {purpose : Purpose} {context : Context}
    {color? : Option Pixel} {drawn : Bool}
    (h : c.Paints purpose context color? (drawn, c')) (hf : ¬ c'.programs.Fails context) :
    c'.device.driver.palette =
      c.device.driver.palette.brush (c.device.driver.drawImage? .color) color? := by
  cases h with
  | left hcached howner _ =>
    exact absurd ⟨_, _, _, Option.filter_eq_some_iff.mpr ⟨hcached, howner⟩⟩ hf
  | done _ _ _ hview => exact hview.palette.trans (Driver.palette_brush _ _)

namespace Surface

variable {s : Surface} {set : BufferSet}

theorem context_take (s : Surface) (x : Step) : (s.take x).context = s.context := by
  cases x with
  | stroke x => cases x <;> rfl
  | readback => rfl
  | rebind => rfl

theorem size_take (s : Surface) (x : Step) : (s.take x).size = s.size := by
  cases x with
  | stroke x => cases x <;> rfl
  | readback => rfl
  | rebind => rfl

theorem context_steps (s : Surface) (steps : List Step) :
    (steps.foldl Surface.take s).context = s.context := by
  induction steps generalizing s with
  | nil => rfl
  | cons x steps ih => exact (ih (s.take x)).trans (context_take s x)

namespace Underway

variable {bound : FramebufferId} {away : Bool} {display : Fill}

/-- What could not be built in the context stays so. -/
theorem fails_take (h : s.Underway set bound display)
    (hf : s.canvas.programs.Fails s.context) (x : Step) :
    (s.take x).canvas.programs.Fails s.context := by
  have hr := h.run.tracks.regular
  cases x with
  | stroke x =>
    cases x with
    | fill color region =>
      obtain ⟨new, hw⟩ := Canvas.works_fill hr s.context s.size color region
      exact hw.gains.fails hf
    | drawTexture patch =>
      obtain ⟨new, hw⟩ := Canvas.works_drawTexture hr s.context s.size patch
      exact hw.gains.fails hf
    | _ => exact hf
  | readback =>
    obtain ⟨purpose, owner, failure, hu⟩ := hf
    refine ⟨purpose, owner, failure, ?_⟩
    rw [ProgramCache.usable?, show (s.take .readback).canvas.programs.cached? = _ from
      (Canvas.idles_readback hr).entries]
    exact hu
  | rebind => exact hf

theorem provides (h : s.Underway set bound display) (purpose : Purpose) :
    s.canvas.programs.Provides purpose s.context s.driver.objects :=
  ProgramCache.Serves.provides (h.context_eq ▸ h.run.sound.serves) h.run.tracks.programs h.isLive
    purpose

theorem palette_stroke (h : s.Underway set (set.bound away) display) (x : Stroke)
    (hf : ¬ (s.stroke x).canvas.programs.Fails s.context) :
    (s.stroke x).driver.palette = s.driver.palette.stroke s.size (set.boundImage away) x := by
  have hr := h.run.tracks.regular
  have himage : s.driver.drawImage? .color = some (set.boundImage away) :=
    h.intact.wired.drawImage?_eq away h.draw
  cases x with
  | clear planes =>
    have hclear := s.driver.palette_clear planes
    rw [himage] at hclear
    exact hclear
  | fill color region =>
    rw [Palette.stroke]
    split
    · rename_i hempty
      exact congrArg (·.2.device.driver.palette)
        (s.canvas.fill_eq_skip hempty s.context color)
    · rename_i hfull
      rw [← himage]
      exact (Canvas.paints_fill hr (h.provides _) (eq_false_of_ne_true hfull) color).palette hf
  | drawTexture patch =>
    rw [Palette.stroke]
    split
    · rename_i hempty
      exact congrArg (·.2.device.driver.palette)
        (s.canvas.drawTexture_eq_skip hempty s.context)
    · rename_i hfull
      have hcolor : s.canvas.textureColor? patch.texture =
          s.driver.palette.color? (.texture patch.texture) :=
        (Option.map_map Fill.color Texture.fill _).symm
      rw [← himage, ← hcolor]
      exact (Canvas.paints_drawTexture hr (h.provides _) (eq_false_of_ne_true hfull)).palette hf
  | clearColor color => rfl
  | colorMask mask => rfl
  | clearDepth depth => exact (s.driver.view_perform (c := .clearDepth depth) rfl).palette
  | clearStencil stencil => exact (s.driver.view_perform (c := .clearStencil stencil) rfl).palette
  | depthMask write => exact (s.driver.view_perform (c := .depthMask write) rfl).palette
  | switch toggle on => exact (s.driver.view_perform (c := .switch toggle on) rfl).palette

/-- Nothing but the program cache and the device changes by reading back, and not the display. -/
theorem readback (h : s.Underway set bound display) :
    (s.operate .readback).Underway set set.framebuffer display := by
  have hm : s.May .readback := h.inStep
  have hr := h.run.tracks.regular
  obtain ⟨-, hdraw, hdisplay⟩ := Canvas.stage_readback h.backed
  exact ⟨h.run.operate hm, (Canvas.idles_readback hr).set.trans h.backed,
    inStep_of_moves (moves_operate h.run.tracks hm) h.inStep, hdraw, hdisplay.trans h.display⟩

theorem rebind (h : s.Underway set bound display) :
    (s.take .rebind).Underway set set.target display where
  run := h.run.undergo fun x _ => nofun
  backed := h.backed
  inStep := h.inStep
  draw := by
    show (s.canvas.backing.set?.map (·.target)) = _
    rw [h.backed]
    rfl
  display := h.display

theorem take {e : Easel} (h : s.Underway set (set.bound e.away) display) (x : Step) :
    (s.take x).Underway set (set.bound (e.take set s.size x).away) display := by
  cases x with
  | stroke x => exact h.stroke x
  | readback => exact h.readback
  | rebind => exact h.rebind

/-- No step ends the frame or reaches the display. -/
theorem steps {e : Easel} (h : s.Underway set (set.bound e.away) display) (steps : List Step) :
    (steps.foldl Surface.take s).Underway set
      (set.bound (steps.foldl (Easel.take set s.size) e).away) display := by
  induction steps generalizing s e with
  | nil => exact h
  | cons x steps ih =>
    have hrest := ih (h.take x)
    rwa [size_take] at hrest

/-- A failure in a frame is one at its end. -/
theorem fails_steps {e : Easel} (h : s.Underway set (set.bound e.away) display)
    (hf : s.canvas.programs.Fails s.context) (steps : List Step) :
    (steps.foldl Surface.take s).canvas.programs.Fails s.context := by
  induction steps generalizing s e with
  | nil => exact hf
  | cons x steps ih =>
    have hfirst := h.fails_take hf x
    rw [← context_take s x] at hfirst ⊢
    exact ih (h.take x) hfirst

end Underway

/-- A frame is being drawn into a set, and an easel has its colours. -/
structure DrawsOn (s : Surface) (set : BufferSet) (e : Easel) (display : Fill) : Prop where
  underway : s.Underway set (set.bound e.away) display
  palette : s.driver.palette = e.palette

variable {e : Easel} {display : Fill}

/-- A step of a frame is a step on its easel. -/
theorem DrawsOn.take (h : s.DrawsOn set e display) (x : Step)
    (hf : ¬ (s.take x).canvas.programs.Fails s.context) :
    (s.take x).DrawsOn set (e.take set s.size x) display := by
  have hu := h.underway
  refine ⟨hu.take x, ?_⟩
  cases x with
  | stroke x =>
    rw [Easel.take, ← h.palette]
    exact hu.palette_stroke x hf
  | readback =>
    rw [Easel.take, ← h.palette]
    exact Canvas.palette_readback hu.backed hu.intact
  | rebind => exact h.palette

theorem DrawsOn.steps (h : s.DrawsOn set e display) (steps : List Step)
    (hf : ¬ (steps.foldl Surface.take s).canvas.programs.Fails s.context) :
    (steps.foldl Surface.take s).DrawsOn set (steps.foldl (Easel.take set s.size) e) display := by
  induction steps generalizing s e with
  | nil => exact h
  | cons x steps ih =>
    have hu := h.underway.take x
    have hfirst : ¬ (s.take x).canvas.programs.Fails s.context := by
      intro hfails
      refine hf ?_
      rw [← context_take s x] at hfails ⊢
      exact hu.fails_steps hfails steps
    have hrest := ih (h.take x hfirst) (by rwa [context_take])
    rwa [size_take] at hrest

/-! ## Whole frames -/

/-- A frame that ends with no failed program shows the colour that its easel has for the image that
is shown. -/
theorem DrawsOn.shows (h : s.DrawsOn set e display)
    (hf : s.endFrame.canvas.programs.failure? (.textured .texture2d) = none) :
    ∃ color, e.palette.color? set.drawnImage = some color ∧
      s.endFrame.driver.display.color = Channels.masked e.palette.mask color display.color := by
  obtain ⟨fill, hfill, hpresents⟩ := h.underway.presents hf
  refine ⟨fill.color, ?_, ?_⟩
  · rw [← h.palette, Driver.palette]
    dsimp only
    rw [hfill, Option.map_some]
  · rw [← h.palette, ← h.underway.display]
    exact congrArg Fill.color hpresents.display

/-- No failed program at the end of a frame means that none failed while it was drawn. -/
theorem not_fails_of_endFrame (hr : s.driver.objects.Regular)
    (hf : ∀ purpose, s.endFrame.canvas.programs.failure? purpose = none) :
    ¬ s.canvas.programs.Fails s.context := by
  intro hfails
  obtain ⟨new, hw⟩ := Canvas.works_endFrame hr s.size s.context
  obtain ⟨purpose, hp⟩ := (hw.gains.fails hfails).failure?
  exact hp (hf purpose)

/-- The easel of a frame after steps of which none failed. -/
def easel (s : Surface) (set : BufferSet) (steps : List Step) : Easel :=
  steps.foldl (Easel.take set s.size) ⟨s.driver.palette, false⟩

/-- The display shows what the steps of a frame leave on the image that is drawn to, where the mask
lets it through. -/
def Presented (s : Surface) (set : BufferSet) (steps : List Step) (s' : Surface) : Prop :=
  ∃ color, (s.easel set steps).palette.color? set.drawnImage = some color ∧
    s'.driver.display.color =
      Channels.masked (s.easel set steps).palette.mask color s.driver.display.color

theorem Underway.presented_steps (h : s.Underway set set.target s.driver.display)
    (steps : List Step)
    (hf : ∀ purpose,
      (steps.foldl Surface.take s).endFrame.canvas.programs.failure? purpose = none) :
    s.Presented set steps (steps.foldl Surface.take s).endFrame := by
  have hstart : s.DrawsOn set ⟨s.driver.palette, false⟩ s.driver.display := ⟨h, rfl⟩
  have hdrawn : (steps.foldl Surface.take s).DrawsOn set (s.easel set steps) s.driver.display := by
    refine hstart.steps steps ?_
    rw [← context_steps s steps]
    exact not_fails_of_endFrame (hstart.underway.steps steps).run.tracks.regular hf
  exact hdrawn.shows (hf _)

/-- A frame with readbacks shows the same red, green and blue as the frame with the colour mask and
the clear colour set in their place, and both show what their steps leave on the image that is drawn
to. With several samples that is said of frames that keep to what a readback leaves. -/
theorem hue_of_frame_with_readbacks (h : Run LeavesAlone s) (hm : s.May .beginFrame) {s' : Surface}
    (hb : s.beginFrame = (.ok (), s')) (hset : s'.canvas.backing.set? = some set)
    (steps : List Step) (hs : set.multisample.isSome = true → Heeds set false false steps)
    (hf : ∀ purpose,
      (steps.foldl take s').endFrame.canvas.programs.failure? purpose = none)
    (hf' : ∀ purpose,
      ((steps.flatMap Step.plain).foldl take s').endFrame.canvas.programs.failure? purpose =
        none) :
    (steps.foldl take s').endFrame.driver.display.color.hue =
        ((steps.flatMap Step.plain).foldl take s').endFrame.driver.display.color.hue ∧
      s'.Presented set steps (steps.foldl take s').endFrame ∧
      s'.Presented set (steps.flatMap Step.plain)
        ((steps.flatMap Step.plain).foldl take s').endFrame := by
  have hbegun := underway_beginFrame h hm hb hset
  obtain ⟨color, hcolor, hdisplay⟩ := hbegun.presented_steps steps hf
  obtain ⟨color', hcolor', hdisplay'⟩ := hbegun.presented_steps (steps.flatMap Step.plain) hf'
  obtain ⟨resolved, hr⟩ : ∃ resolved, (s'.easel set steps).palette.Resembles
      (s'.easel set (steps.flatMap Step.plain)).palette (set.resolvedImage? resolved) :=
    Easel.resembles_steps set s'.size steps _ _ false hs (.refl _ _)
  have hhue := hr.hue set.drawnImage (set.resolvedImage?_ne resolved)
  rw [hcolor, hcolor'] at hhue
  refine ⟨?_, ⟨color, hcolor, hdisplay⟩, color', hcolor', hdisplay'⟩
  rw [hdisplay, hdisplay', hr.mask]
  exact Channels.hue_masked (Option.some.inj hhue).symm rfl _

/-! ## Frames without faults -/

theorem isObliging_steps (h : s.canvas.IsObliging) (steps : List Step) :
    (steps.foldl take s).endFrame.canvas.IsObliging := by
  suffices hsteps : (steps.foldl take s).canvas.IsObliging from hsteps.endFrame _ _
  induction steps generalizing s with
  | nil => exact h
  | cons x steps ih =>
    refine ih ?_
    cases x with
    | stroke x => exact isObliging_stroke h x
    | readback => exact h.readback
    | rebind => exact (h.performAll [_]).congr rfl rfl

/-- In a run of operations alone a frame shows what its easel shows. -/
theorem Begins.hue_steps (hb : s.Begins set) (h : Run (fun _ _ => False) s)
    (hm : s.May .beginFrame) {steps : List Step} {color : Pixel}
    (he : (s.beginFrame.2.easel set steps).Shows set color) :
    (steps.foldl take s.beginFrame.2).endFrame.driver.display.color.hue = color.hue := by
  have hunderway := underway_beginFrame (h.mono fun _ _ => False.elim) hm hb.eq_ok hb.2.1
  have hprograms := (isObliging_steps (hb.isObliging h hm) steps).programs
  obtain ⟨shown, hshown, hdisplay⟩ := hunderway.presented_steps steps hprograms
  rw [he.2] at hshown
  cases hshown
  rw [hdisplay, he.1]
  rfl

/-- A first frame with two samples that is cleared, made readable and cleared again. -/
theorem hue_of_first_frame_with_readback :
    let s := ((withPolicy .full .standard .always).operate (.adoptContext (.live 1))).operate
      (.resize ⟨4, 4⟩)
    let set : BufferSet :=
      ⟨⟨⟨4, 4⟩, 2, .live 1⟩, ⟨⟨4, 4⟩, 2, true⟩, ⟨1⟩, ⟨2⟩, some ⟨⟨3⟩, ⟨4⟩⟩, .packed ⟨5⟩⟩
    let steps := [Step.stroke (.clear .all), .readback, .rebind, .stroke (.clear .colorOnly)]
    s.beginFrame.1 = .ok () ∧ s.beginFrame.2.canvas.backing.set? = some set ∧
      (steps.foldl take s.beginFrame.2).endFrame.driver.display.color.hue =
        ((steps.flatMap Step.plain).foldl take s.beginFrame.2).endFrame.driver.display.color.hue ∧
      s.beginFrame.2.Presented set steps (steps.foldl take s.beginFrame.2).endFrame := by
  intro s set steps
  have hrun : Run (fun _ _ => False) s := .reported _ _ _ _ _
  have hm : s.May .beginFrame := ⟨trivial, Or.inr rfl⟩
  have hbegins : s.Begins set := by decide +kernel
  have hobliging := hbegins.isObliging hrun hm
  have hheeds : Heeds set false false steps :=
    ⟨nofun, nofun, nofun, fun _ => nofun, trivial⟩
  obtain ⟨hhue, hpresented, -⟩ := hue_of_frame_with_readbacks (hrun.mono fun _ _ => False.elim) hm
    hbegins.eq_ok hbegins.2.1 steps (fun _ => hheeds) (isObliging_steps hobliging _).programs
    (isObliging_steps hobliging _).programs
  exact ⟨hbegins.1, hbegins.2.1, hhue, hpresented⟩

/-- The clear colour that a readback sets is seen: with one sample, a frame that is to be cleared to
red is black if a readback comes before the clear. With two samples so is a frame that is cleared to
red after a readback, since it is the image of the texture that is cleared. -/
theorem hue_of_clear_after_readback :
    let s (antialias : UInt32) :=
      ((withPolicy .full { Settings.standard with antialias } .always).operate
        (.adoptContext (.live 1))).operate (.resize ⟨4, 4⟩)
    let red := Step.stroke (.clearColor ⟨Binary.ofNat 1, 0, 0, Binary.ofNat 1⟩)
    let clear := Step.stroke (.clear .colorOnly)
    let hue (antialias : UInt32) (steps : List Step) :=
      (steps.foldl take (s antialias).beginFrame.2).endFrame.driver.display.color.hue
    ((s 1).beginFrame.1 = .ok () ∧ hue 1 [red, clear] = (255, 0, 0) ∧
      hue 1 [red, .readback, clear] = (0, 0, 0)) ∧
    (s 2).beginFrame.1 = .ok () ∧ hue 2 [red, clear] = (255, 0, 0) ∧
      hue 2 [.readback, red, clear] = (0, 0, 0) := by
  intro s red clear hue
  let single : BufferSet :=
    ⟨⟨⟨4, 4⟩, 1, .live 1⟩, ⟨⟨4, 4⟩, 1, true⟩, ⟨1⟩, ⟨2⟩, none, .packed ⟨3⟩⟩
  let double : BufferSet :=
    ⟨⟨⟨4, 4⟩, 2, .live 1⟩, ⟨⟨4, 4⟩, 2, true⟩, ⟨1⟩, ⟨2⟩, some ⟨⟨3⟩, ⟨4⟩⟩, .packed ⟨5⟩⟩
  have hrun (antialias : UInt32) : Run (fun _ _ => False) (s antialias) := .reported _ _ _ _ _
  have hm (antialias : UInt32) : (s antialias).May .beginFrame := ⟨trivial, Or.inr rfl⟩
  -- the frames are followed on their easels, which is quicker than drawing them
  have hone : (s 1).Begins single ∧
      ((s 1).beginFrame.2.easel single [red, clear]).Shows single ⟨255, 0, 0, 255⟩ ∧
      ((s 1).beginFrame.2.easel single [red, .readback, clear]).Shows single ⟨0, 0, 0, 255⟩ := by
    decide +kernel
  have htwo : (s 2).Begins double ∧
      ((s 2).beginFrame.2.easel double [red, clear]).Shows double ⟨255, 0, 0, 255⟩ ∧
      ((s 2).beginFrame.2.easel double [.readback, red, clear]).Shows double ⟨0, 0, 0, 0⟩ := by
    decide +kernel
  obtain ⟨hsingle, hsingleRed, hsingleBlack⟩ := hone
  obtain ⟨hdouble, hdoubleRed, hdoubleBlack⟩ := htwo
  exact ⟨⟨hsingle.1, hsingle.hue_steps (hrun 1) (hm 1) hsingleRed,
      hsingle.hue_steps (hrun 1) (hm 1) hsingleBlack⟩,
    hdouble.1, hdouble.hue_steps (hrun 2) (hm 2) hdoubleRed,
      hdouble.hue_steps (hrun 2) (hm 2) hdoubleBlack⟩

end Surface

end Compositor
