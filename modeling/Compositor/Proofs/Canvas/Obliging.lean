import Compositor.Proofs.Canvas.Working
import Compositor.Proofs.Program.Obliging

/-!
# Canvases without faults

On a canvas whose device is obliging no program is missing, and draws, readbacks and the ends of
frames leave it so.
-/

namespace Compositor

namespace Canvas

/-- Every program that is asked for is there. -/
structure IsObliging (c : Canvas) : Prop where
  regular : c.device.driver.objects.Regular
  device : c.device.IsObliging
  programs : c.programs.IsWhole

namespace IsObliging

variable {c : Canvas}

/-- Neither the backing nor the counters matter. -/
theorem congr {c' : Canvas} (h : c.IsObliging) (hd : c'.device = c.device)
    (hp : c'.programs = c.programs) : c'.IsObliging := by
  refine ⟨?_, ?_, ?_⟩
  · rw [hd]
    exact h.regular
  · rw [hd]
    exact h.device
  · rw [hp]
    exact h.programs

theorem performAll (h : c.IsObliging) (calls : List Call) : (c.performAll calls).IsObliging where
  regular :=
    Device.performAll_induct (P := fun v => v.objects.Regular)
      (fun call _ v hv => (v.edits_perform call).regular hv) h.regular
  device := h.device.performAll calls
  programs := h.programs

theorem draw (h : c.IsObliging) (purpose : Purpose) (context : Context)
    (calls? : BuiltProgram → Option (List Call)) :
    (c.draw purpose context calls?).2.IsObliging := by
  obtain ⟨entry, programs, device, he, hcases⟩ := c.draw_cases purpose context calls?
  obtain ⟨hprograms, hdevice⟩ := h.programs.entry h.device h.regular he
  obtain ⟨new, hgrows, -, -, -⟩ := ProgramCache.entry_gains h.regular he
  have hc : IsObliging { c with programs := programs, device := device } :=
    ⟨hgrows.regular h.regular, hdevice, hprograms⟩
  obtain ⟨-, hd⟩ | ⟨p, calls, -, -, hd⟩ := hcases
  all_goals rw [hd]
  · exact hc.congr rfl rfl
  · exact (hc.performAll _).congr rfl rfl

theorem fill (h : c.IsObliging) (context : Context) (surface : Size) (color : Rgba)
    (region : Rect) : (c.fill context surface color region).2.IsObliging := by
  have hd := h.draw .solid context fun p => p.fillingCalls? surface color region
  rw [fill_eq]
  split
  · exact h.congr rfl rfl
  · exact hd.congr (device_countDone ..) (programs_countDone ..)

theorem drawPatch (h : c.IsObliging) (context : Context) (surface : Size) (patch : TexturePatch) :
    (c.drawPatch context surface patch).2.IsObliging := by
  unfold Canvas.drawPatch
  split
  · exact h.congr rfl rfl
  · exact h.draw _ context _

theorem drawTexture (h : c.IsObliging) (context : Context) (surface : Size)
    (patch : TexturePatch) : (c.drawTexture context surface patch).2.IsObliging := by
  rw [drawTexture_eq]
  exact (h.drawPatch context surface patch).congr (device_countDone ..) (programs_countDone ..)

theorem resolve (h : c.IsObliging) (set : BufferSet) : (c.resolve set).IsObliging := by
  unfold Canvas.resolve
  split
  · exact h
  · exact (h.performAll _).congr rfl rfl

theorem readback (h : c.IsObliging) : c.readback.2.IsObliging := by
  cases hset : c.backing.set? with
  | none =>
    rw [readback_of_none hset]
    exact h
  | some set =>
    rw [readback_of_set hset]
    exact ((h.resolve set).performAll _).congr rfl rfl

theorem beginFrame (h : c.IsObliging) : c.beginFrame.IsObliging := by
  unfold Canvas.beginFrame
  split
  · exact h
  · exact (h.performAll _).congr rfl rfl

theorem endFrame (h : c.IsObliging) (surface : Size) (context : Context) :
    (c.endFrame surface context).IsObliging := by
  cases hset : c.backing.set? with
  | none =>
    rw [endFrame_of_none hset]
    exact h
  | some set =>
    have hd := ((h.resolve set).performAll showingCalls).drawPatch context surface
      (.corner set.texture set.layout.size surface.width surface.height)
    have hpresent : (c.present set surface context).2.IsObliging :=
      hd.congr (device_countDone ..) (programs_countDone ..)
    rw [endFrame_of_set hset]
    exact (hpresent.performAll _).congr rfl rfl

end IsObliging

end Canvas

end Compositor
