import Compositor.Proofs.Canvas.Reading
import Compositor.Proofs.Surface.Hanging

/-!
# Sampling a frame

What a readback makes of the images, and what is sampled after it. It takes no more for that than
that the set of the surface is live, as the parts of a set stay in their places whatever is asked of
the surface. Masks, clear values and bindings that were left behind do not matter, nor does the
context that was reported last.
-/

namespace Compositor

open Numeric

/-- What is left of a colour when its alpha alone is cleared. -/
theorem Channels.masked_alphaOnly (color : Pixel) :
    masked .alphaOnly Rgba.opaqueBlack.quantize color = { color with a := 255 } := by
  have halpha : Rgba.opaqueBlack.quantize.a = 255 := by decide
  rw [masked, halpha]
  rfl

/-! ## Reading back -/

namespace Surface

variable {s : Surface} {set : BufferSet}

/-- The surface on a driver in another state. -/
def onDriver (s : Surface) (d : Driver) : Surface :=
  { s with canvas := { s.canvas with device := { s.canvas.device with driver := d } } }

/-- A readback shows the frame with opaque alpha, whatever was asked of the surface before, and
whatever state the driver was left in. -/
theorem samples_of_readback {profile : Profile} {settings : Settings} {policy : Policy}
    {may : Surface → Operation → Prop}
    (h : Course may LeavesSlots (withPolicy profile settings policy) s)
    (hset : s.canvas.backing.set? = some set)
    (hlive : ∀ x ∈ set.handles, s.driver.objects.Live x) (leftover : Driver)
    (ho : leftover.objects = s.driver.objects) :
    let r := (s.onDriver leftover).readback
    let after := r.2.driver
    r.1 = some set.framebuffer ∧
      after.bindings.read = some set.framebuffer ∧ after.bindings.draw = some set.framebuffer ∧
      r.2.canvas.backing.screen? = some set.framebuffer ∧
      ∃ drawn shown : Fill, leftover.objects.fill? set.drawnImage = some drawn ∧
        leftover.objects.fill? (.texture set.texture) = some shown ∧
        after.objects.fill? (.texture set.texture) =
          some { shown with color := { drawn.color with a := 255 } } ∧
        (∀ image, image ≠ .texture set.texture →
          after.objects.fill? image = leftover.objects.fill? image) ∧
        after.display = leftover.display ∧
        (∀ x y, (r.2.sampleColor x y).1 =
          if x < s.size.width ∧ y < s.size.height then some { drawn.color with a := 255 }
          else none) ∧
        (∀ image, r.2.readback.2.driver.objects.fill? image = after.objects.fill? image) ∧
        r.2.readback.2.driver.display = after.display := by
  intro r after
  let c : Canvas := (s.onDriver leftover).canvas
  have hb : c.backing.set? = some set := hset
  have hw : set.Wired c.device.driver.objects := by
    show set.Wired leftover.objects
    rw [ho]
    exact ((h.hung (hung_start profile settings policy)).hangs set hset).wired hlive
  obtain ⟨drawn, hdrawn⟩ := hw.drawnImage
  obtain ⟨shown, hshown⟩ := hw.texture
  obtain ⟨hreturned, hb', hscreen⟩ := Canvas.screen_readback hb
  obtain ⟨hread, hdraw, hdisplay⟩ := Canvas.stage_readback hb
  have hfill := Canvas.fill?_readback hb hw hdrawn
  refine ⟨hreturned, hread, hdraw, hscreen, drawn, shown, hdrawn, hshown, ?_, fun image hi => ?_,
    hdisplay, fun x y => ?_, Canvas.fill?_readback_again hb hw, (Canvas.stage_readback hb').2.2⟩
  · rw [← Channels.masked_alphaOnly]
    exact (hfill _).trans (by rw [if_pos rfl, hshown]; rfl)
  · exact (hfill image).trans (if_neg hi)
  · have hcolor := Canvas.color_readFill_readback hb hw hdrawn
    rw [Channels.masked_alphaOnly] at hcolor
    rw [← hcolor]
    exact c.readback.2.sampleColor_eq s.size x y

/-- The context that was reported is not the current one. A frame of two samples is cleared to a red
with alpha zero, and read back while the display is bound, no channel can be written and colours are
cleared to white. -/
theorem samples_of_masked_readback :
    let s := ((((withPolicy .full .standard .always).operate (.adoptContext (.live 7))).operate
      (.resize ⟨4, 4⟩)).operate .beginFrame).undergo (.call (.clearColor ⟨Binary.ofNat 1, 0, 0, 0⟩))
    let cleared := s.undergo (.call (.clear .colorOnly))
    let leftover : Driver := { cleared.driver with
      bindings := { cleared.driver.bindings with read := none, draw := none }
      pipeline := { cleared.driver.pipeline with
        colorMask := Channels.all false, clearColor := Channels.all (Binary.ofNat 1) } }
    let r := (cleared.onDriver leftover).readback
    cleared.context ≠ cleared.driver.context ∧ r.1 = some ⟨2⟩ ∧
      (r.2.sampleColor 3 0).1 = some ⟨255, 0, 0, 255⟩ ∧ (r.2.sampleColor 4 0).1 = none := by
  intro s cleared leftover r
  let set : BufferSet :=
    ⟨⟨⟨4, 4⟩, 2, .live 7⟩, ⟨⟨4, 4⟩, 2, true⟩, ⟨1⟩, ⟨2⟩, some ⟨⟨3⟩, ⟨4⟩⟩, .packed ⟨5⟩⟩
  have hcourse :
      Course (fun _ _ => True) LeavesSlots (withPolicy .full .standard .always) cleared :=
    ((((Course.start.operate trivial).operate trivial).operate trivial).undergo nofun).undergo nofun
  have hruns : cleared.canvas.backing.set? = some set ∧
      (∀ x ∈ set.handles, cleared.driver.objects.Live x) ∧
      cleared.context ≠ cleared.driver.context ∧ cleared.size = ⟨4, 4⟩ ∧
      (leftover.objects.fill? set.drawnImage).map (·.color) = some ⟨255, 0, 0, 0⟩ := by
    decide +kernel
  obtain ⟨hset, hlive, hforeign, hsize, hcolor⟩ := hruns
  have hread := samples_of_readback hcourse hset hlive leftover (by dsimp only [leftover])
  obtain ⟨hreturned, -, -, -, drawn, shown, hdrawn, -, -, -, -, hsample, -⟩ := hread
  rw [hdrawn, Option.map_some, Option.some.injEq] at hcolor
  rw [hsize, hcolor] at hsample
  exact ⟨hforeign, hreturned, (hsample 3 0).trans (if_pos (by decide)),
    (hsample 4 0).trans (if_neg (by decide))⟩

end Surface

end Compositor
