import Compositor.Proofs.Buffer.Forecast
import Compositor.Proofs.Canvas.Drawing
import Compositor.Proofs.Device.Incident

/-!
# The swap interval

One call of the driver tells it a swap interval, and nothing that is done on a canvas or happens at
its device makes that call, unless it is asked for by name.
-/

namespace Compositor

open Numeric

/-- Whether a call tells the driver a swap interval. -/
def Call.setsInterval : Call → Bool
  | .swapInterval _ => true
  | _ => false

theorem Driver.swapInterval_perform (d : Driver) {c : Call} (h : c.setsInterval = false) :
    (d.perform c).pipeline.swapInterval = d.pipeline.swapInterval := by
  cases hp : c.setsPipeline with
  | false => rw [d.pipeline_perform hp]
  | true =>
    cases c with
    | swapInterval interval => cases h
    | switch toggle on => cases toggle <;> rfl
    | depthMask | colorMask | clearColor | clearDepth | clearStencil => rfl
    | _ => cases hp

/-- Whether the swap interval is told by somebody other than the surface. -/
def Incident.setsInterval : Incident → Bool
  | .call c => c.setsInterval
  | _ => false

theorem Device.swapInterval_undergo (d : Device) {i : Incident} (h : i.setsInterval = false) :
    (d.undergo i).driver.pipeline.swapInterval = d.driver.pipeline.swapInterval := by
  cases i with
  | call call => exact d.driver.swapInterval_perform h
  | attempt what =>
    simp only [undergo, attempt]
    split
    · rfl
    · exact d.driver.swapInterval_perform (c := .create what) rfl
  | compile id source =>
    simp only [undergo, compile]
    split <;> rfl
  | _ => rfl

namespace Canvas

/-- The swap interval that the driver was told last. -/
def swapInterval (c : Canvas) : Nat := c.device.driver.pipeline.swapInterval

variable {c : Canvas}

theorem swapInterval_performAll (c : Canvas) {calls : List Call}
    (h : ∀ call ∈ calls, call.setsInterval = false) :
    (c.performAll calls).swapInterval = c.swapInterval :=
  Device.performAll_induct (P := fun v => v.pipeline.swapInterval = c.swapInterval)
    (fun call hc v hv => (v.swapInterval_perform (h call hc)).trans hv) rfl

theorem swapInterval_ensure (hr : c.device.driver.objects.Regular) (order : Order)
    (caps : Capabilities) : (c.ensure order caps).2.swapInterval = c.swapInterval := by
  rcases he : c.backing.ensure order caps c.device with ⟨outcome, b, e⟩
  rw [ensure, he]
  exact Backing.swapInterval_ensure hr he

theorem swapInterval_beginFrame (c : Canvas) : c.beginFrame.swapInterval = c.swapInterval := by
  unfold beginFrame
  split
  · rfl
  · exact c.swapInterval_performAll (by simp [Call.setsInterval])

theorem swapInterval_resolve (c : Canvas) (set : BufferSet) :
    (c.resolve set).swapInterval = c.swapInterval := by
  unfold resolve
  split
  · rfl
  · exact c.swapInterval_performAll (by simp [Call.setsInterval])

theorem swapInterval_fill (hr : c.device.driver.objects.Regular) (context : Context)
    (surface : Size) (color : Rgba) (region : Rect) :
    (c.fill context surface color region).2.swapInterval = c.swapInterval :=
  congrArg Pipeline.swapInterval (stage_fill hr context surface color region).pipeline

theorem swapInterval_drawPatch (hr : c.device.driver.objects.Regular) (context : Context)
    (surface : Size) (patch : TexturePatch) :
    (c.drawPatch context surface patch).2.swapInterval = c.swapInterval :=
  congrArg Pipeline.swapInterval (stage_drawPatch hr context surface patch).pipeline

theorem swapInterval_drawTexture (hr : c.device.driver.objects.Regular) (context : Context)
    (surface : Size) (patch : TexturePatch) :
    (c.drawTexture context surface patch).2.swapInterval = c.swapInterval :=
  congrArg Pipeline.swapInterval (stage_drawTexture hr context surface patch).pipeline

theorem swapInterval_endFrame (hr : c.device.driver.objects.Regular) (surface : Size)
    (context : Context) : (c.endFrame surface context).swapInterval = c.swapInterval := by
  cases hset : c.backing.set? with
  | none => rw [endFrame_of_none hset]
  | some set =>
    have hbefore : ((c.resolve set).performAll showingCalls).swapInterval = c.swapInterval :=
      ((c.resolve set).swapInterval_performAll (by simp [showingCalls, Call.setsInterval])).trans
        (c.swapInterval_resolve set)
    have hpresent : (c.present set surface context).2.swapInterval = c.swapInterval := by
      rw [present, swapInterval, device_countDone]
      exact (swapInterval_drawPatch ((idles_showingCalls hr set).grows.regular hr) context
        surface _).trans hbefore
    rw [endFrame_of_set hset]
    exact ((c.present set surface context).2.swapInterval_performAll
      (by simp [Call.setsInterval])).trans hpresent

theorem swapInterval_readback (c : Canvas) : c.readback.2.swapInterval = c.swapInterval := by
  cases hset : c.backing.set? with
  | none => rw [readback_of_none hset]
  | some set =>
    rw [readback_of_set hset]
    exact ((c.resolve set).swapInterval_performAll (by simp [opaqueCalls, Call.setsInterval])).trans
      (c.swapInterval_resolve set)

/-- Reading a pixel. -/
theorem swapInterval_sample {α : Type} (c : Canvas) (surface : Size) (x y : Nat)
    {read : Device → Nat → Nat → α × Device}
    (hread : ∀ d row, (read d x row).2.driver.pipeline.swapInterval =
      d.driver.pipeline.swapInterval) :
    (c.sample surface x y read).2.swapInterval = c.swapInterval := by
  obtain hs | ⟨row, hs⟩ := c.sample_cases surface x y read
  · rw [hs]
  · rw [hs]
    exact hread _ _

end Canvas

end Compositor
