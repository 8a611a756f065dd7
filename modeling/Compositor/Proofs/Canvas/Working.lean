import Compositor.Canvas.Basic
import Compositor.Proofs.Buffer.Blueprint
import Compositor.Proofs.Program.Caching

/-!
# Working on a canvas

What frames, draws and readback do to a canvas. All of them keep its set. Those that draw nothing
leave the objects of the device as they are but for contents, and a draw makes at most the objects
of one program, which the cache holds from then on.
-/

namespace Compositor

theorem Backing.set?_focusOn (b : Backing) (focus : Focus) : (b.focusOn focus).set? = b.set? := by
  cases b <;> rfl

theorem Backing.screen?_focusOn_color {b : Backing} {set : BufferSet} (h : b.set? = some set) :
    (b.focusOn .color).screen? = some set.framebuffer := by
  cases b with
  | uninitialized => cases h
  | destroyed => cases h
  | ready set' focus =>
    cases h
    rfl

namespace BuiltProgram

variable {p : BuiltProgram} {calls : List Call}

/-- A fill sets the colour in its program and draws one strip. -/
theorem fillingCalls?_eq_some {surface : Size} {color : Rgba} {region : Rect}
    (h : p.fillingCalls? surface color region = some calls) :
    ∃ location streams, streams ≠ [] ∧ calls =
      [.useProgram (some p.program), .uniformColor location color, .drawStrip streams 4,
        .useProgram none] := by
  obtain ⟨position, -, h⟩ := Option.bind_eq_some_iff.mp h
  obtain ⟨location, -, h⟩ := Option.bind_eq_some_iff.mp h
  cases h
  exact ⟨location, _, List.cons_ne_nil _ _, rfl⟩

/-- A draw of a texture sets the sampler if its program has one, binds the texture, draws one strip,
and unbinds it again. -/
theorem texturingCalls?_eq_some {surface : Size} {patch : TexturePatch}
    (h : p.texturingCalls? surface patch = some calls) :
    ∃ setup streams, (setup = [] ∨ ∃ location, setup = [Call.uniformInt location 0]) ∧
      streams ≠ [] ∧ calls = [.useProgram (some p.program)] ++ setup ++
        [.activeTexture 0, .bindTexture patch.target (some patch.texture), .drawStrip streams 4,
          .bindTexture patch.target none, .useProgram none] := by
  obtain ⟨position, -, h⟩ := Option.bind_eq_some_iff.mp h
  obtain ⟨coordinate, -, h⟩ := Option.bind_eq_some_iff.mp h
  cases h
  refine ⟨_, _, ?_, List.cons_ne_nil _ _, rfl⟩
  cases p.sampler with
  | none => exact Or.inl rfl
  | some location => exact Or.inr ⟨location, rfl⟩

theorem isQuiet_fillingCalls (surface : Size) (color : Rgba) (region : Rect)
    (h : p.fillingCalls? surface color region = some calls) : ∀ c ∈ calls, c.isQuiet = true := by
  obtain ⟨location, streams, -, rfl⟩ := fillingCalls?_eq_some h
  simp [Call.isQuiet]

theorem isQuiet_texturingCalls (surface : Size) (patch : TexturePatch)
    (h : p.texturingCalls? surface patch = some calls) : ∀ c ∈ calls, c.isQuiet = true := by
  obtain ⟨setup, streams, rfl | ⟨location, rfl⟩, -, rfl⟩ := texturingCalls?_eq_some h <;>
    simp [Call.isQuiet]

end BuiltProgram

/-- The calls before an overlay, by which depth does not matter to it. -/
def Call.depthOff : List Call := [.switch .depthTest false, .depthMask false]

/-- The calls after an overlay, which put the depth test and the depth mask back. -/
def Pipeline.depthBack (p : Pipeline) : List Call :=
  (if p.depthTest then [.switch .depthTest true] else []) ++ [.depthMask p.depthMask]

theorem Device.overlay_eq (d : Device) (calls : List Call) :
    d.overlay calls = d.performAll (Call.depthOff ++ calls ++ d.driver.pipeline.depthBack) := by
  rw [overlay, Call.depthOff, Pipeline.depthBack, ← List.append_assoc]

section AroundOverlays

variable {P : Call → Prop} (htest : ∀ on, P (.switch .depthTest on))
  (hmask : ∀ on, P (.depthMask on))
include htest hmask

theorem Call.forall_mem_depthOff : ∀ c ∈ Call.depthOff, P c :=
  List.forall_mem_cons.mpr ⟨htest false, List.forall_mem_singleton.mpr (hmask false)⟩

theorem Pipeline.forall_mem_depthBack (p : Pipeline) : ∀ c ∈ p.depthBack, P c := by
  refine List.forall_mem_append.mpr ⟨fun c hc => ?_, List.forall_mem_singleton.mpr (hmask _)⟩
  rw [List.mem_ite_nil_right, List.mem_singleton] at hc
  exact hc.2 ▸ htest true

/-- Around what is drawn over the contents only the depth test and the depth mask are set. -/
theorem Device.forall_mem_overlay {calls : List Call} (h : ∀ c ∈ calls, P c) (p : Pipeline) :
    ∀ c ∈ Call.depthOff ++ calls ++ p.depthBack, P c :=
  List.forall_mem_append.mpr ⟨List.forall_mem_append.mpr
    ⟨Call.forall_mem_depthOff htest hmask, h⟩, p.forall_mem_depthBack htest hmask⟩

end AroundOverlays

/-- The overlay does not make or delete anything by itself. -/
theorem Device.grows_overlay (d : Device) {calls : List Call}
    (hq : ∀ c ∈ calls, c.isQuiet = true) : d.Grows (d.overlay calls) [] := by
  rw [overlay_eq]
  exact d.grows_performAll (forall_mem_overlay (fun _ => rfl) (fun _ => rfl) hq _)

namespace Canvas

/-- The canvas `c'` is `c` after something that makes no objects. -/
structure Idles (c c' : Canvas) : Prop where
  set : c'.backing.set? = c.backing.set?
  entries : c'.programs.cached? = c.programs.cached?
  grows : c.device.Grows c'.device []

/-- The canvas `c'` is `c` after something that may have built a program in the context; `new` are
the handles of what was made. -/
structure Works (context : Context) (c c' : Canvas) (new : List Handle) : Prop where
  set : c'.backing.set? = c.backing.set?
  grows : c.device.Grows c'.device new
  gains : ProgramCache.Gains context c'.device.driver.objects c.programs c'.programs new

variable {c c' c'' : Canvas} {context : Context} {new : List Handle}

namespace Idles

theorem refl (c : Canvas) : c.Idles c := ⟨rfl, rfl, .refl _⟩

theorem count (h : c.Idles c') (f : CanvasStatistics → CanvasStatistics) : c.Idles (c'.count f) :=
  ⟨h.set, h.entries, h.grows⟩

theorem skip (c : Canvas) : c.Idles c.skip.2 := ⟨rfl, rfl, .refl _⟩

theorem focus (h : c.Idles c') (focus : Focus) :
    c.Idles { c' with backing := c'.backing.focusOn focus } :=
  ⟨(Backing.set?_focusOn _ _).trans h.set, h.entries, h.grows⟩

theorem performAll (h : c.Idles c') (hr : c.device.driver.objects.Regular) {calls : List Call}
    (hq : ∀ call ∈ calls, call.isQuiet = true) : c.Idles (c'.performAll calls) :=
  ⟨h.set, h.entries, h.grows.trans (c'.device.grows_performAll hq) hr⟩

theorem works (h : c.Idles c') (context : Context) : c.Works context c' [] :=
  ⟨h.set, h.grows, .found h.entries⟩

end Idles

namespace Works

/-- Idling after work. -/
theorem idle (h : c.Works context c' new) (h' : c'.Idles c'')
    (hr : c.device.driver.objects.Regular) : c.Works context c'' new := by
  refine ⟨h'.set.trans h.set, h.grows.trans h'.grows hr,
    h.gains.congr rfl h'.entries fun x hx => ?_⟩
  have hr' := h.grows.regular hr
  exact h'.grows.outline_of_live hr' ((h.grows.live x).mpr (Or.inr hx))

/-- Idling before work. -/
theorem after (h : c'.Works context c'' new) (h' : c.Idles c')
    (hr : c.device.driver.objects.Regular) : c.Works context c'' new := by
  refine ⟨h.set.trans h'.set, ?_, h.gains.congr h'.entries.symm rfl fun _ _ => rfl⟩
  have hg := h'.grows.trans h.grows hr
  rwa [List.append_nil] at hg

end Works

/-! ## Draws -/

/-- Counts a draw, if it was done. -/
def countDone (f : CanvasStatistics → CanvasStatistics) : Bool × Canvas → Bool × Canvas
  | (false, c) => (false, c)
  | (true, c) => (true, c.count f)

section CountDone

variable (f : CanvasStatistics → CanvasStatistics) (r : Bool × Canvas)

@[simp] theorem backing_countDone : (countDone f r).2.backing = r.2.backing := by
  rcases r with ⟨_ | _, c⟩ <;> rfl

@[simp] theorem programs_countDone : (countDone f r).2.programs = r.2.programs := by
  rcases r with ⟨_ | _, c⟩ <;> rfl

@[simp] theorem device_countDone : (countDone f r).2.device = r.2.device := by
  rcases r with ⟨_ | _, c⟩ <;> rfl

variable {r}

theorem Works.countDone (h : c.Works context r.2 new) :
    c.Works context (Canvas.countDone f r).2 new := by
  rcases r with ⟨_ | _, c'⟩
  · exact h
  · exact ⟨h.set, h.grows, h.gains⟩

end CountDone

/-- A fill is a draw that is counted if it is done, unless there is nothing to fill. -/
theorem fill_eq (c : Canvas) (context : Context) (surface : Size) (color : Rgba) (region : Rect) :
    c.fill context surface color region =
      if surface.isEmpty || region.isDegenerate then c.skip
      else countDone (fun s => { s with fills := s.fills + 1 })
        (c.draw .solid context fun p => p.fillingCalls? surface color region) := by
  unfold fill
  rcases c.draw .solid context (fun p => p.fillingCalls? surface color region) with ⟨_ | _, c'⟩ <;>
    rfl

theorem drawTexture_eq (c : Canvas) (context : Context) (surface : Size) (patch : TexturePatch) :
    c.drawTexture context surface patch =
      countDone (fun s => { s with textureDraws := s.textureDraws + 1 })
        (c.drawPatch context surface patch) := by
  unfold drawTexture
  rcases c.drawPatch context surface patch with ⟨_ | _, c'⟩ <;> rfl

/-- A draw asks for the program for its purpose. It is left out if there is none or if it lacks a
location, and else its calls are performed over the contents. -/
theorem draw_cases (c : Canvas) (purpose : Purpose) (context : Context)
    (calls? : BuiltProgram → Option (List Call)) :
    ∃ entry programs device,
      c.programs.entry purpose context c.device = (entry, programs, device) ∧
        (((∀ p, entry.built? = some p → calls? p = none) ∧
            c.draw purpose context calls? =
              Canvas.skip { c with programs := programs, device := device }) ∨
          ∃ p calls, entry.built? = some p ∧ calls? p = some calls ∧
            c.draw purpose context calls? =
              (true, { c with programs := programs, device := device.overlay calls })) := by
  unfold draw program?
  rcases he : c.programs.entry purpose context c.device with ⟨entry, programs, device⟩
  refine ⟨entry, programs, device, rfl, ?_⟩
  dsimp only
  cases hb : entry.built?.bind calls? with
  | none => exact Or.inl ⟨Option.bind_eq_none_iff.mp hb, rfl⟩
  | some calls =>
    obtain ⟨p, hp, hcalls⟩ := Option.bind_eq_some_iff.mp hb
    exact Or.inr ⟨p, calls, hp, hcalls, rfl⟩

theorem works_draw (hr : c.device.driver.objects.Regular) (purpose : Purpose) (context : Context)
    {calls? : BuiltProgram → Option (List Call)}
    (hq : ∀ p calls, calls? p = some calls → ∀ call ∈ calls, call.isQuiet = true) :
    ∃ new, c.Works context (c.draw purpose context calls?).2 new := by
  obtain ⟨entry, programs, device, he, hcases⟩ := c.draw_cases purpose context calls?
  obtain ⟨new, hgrows, -, -, hgains⟩ := ProgramCache.entry_gains hr he
  have hw : c.Works context { c with programs := programs, device := device } new :=
    ⟨rfl, hgrows, hgains⟩
  obtain ⟨-, hd⟩ | ⟨p, calls, -, hp, hd⟩ := hcases
  all_goals rw [hd]
  · exact ⟨new, hw.idle (.skip _) hr⟩
  · exact ⟨new, hw.idle ⟨rfl, rfl, device.grows_overlay (hq p calls hp)⟩ hr⟩

/-- An empty region and an empty surface are skipped. -/
theorem fill_eq_skip {surface : Size} {region : Rect}
    (h : (surface.isEmpty || region.isDegenerate) = true) (context : Context) (color : Rgba) :
    c.fill context surface color region = c.skip := if_pos h

theorem drawTexture_eq_skip {surface : Size} {patch : TexturePatch}
    (h : (surface.isEmpty || patch.textureSize.isEmpty || patch.region.isDegenerate) = true)
    (context : Context) : c.drawTexture context surface patch = c.skip := by
  rw [drawTexture, drawPatch, if_pos h]
  rfl

theorem works_fill (hr : c.device.driver.objects.Regular) (context : Context) (surface : Size)
    (color : Rgba) (region : Rect) :
    ∃ new, c.Works context (c.fill context surface color region).2 new := by
  rw [fill_eq]
  split
  · exact ⟨[], (Idles.skip c).works context⟩
  · obtain ⟨new, hw⟩ := works_draw hr .solid context
      fun p calls => p.isQuiet_fillingCalls surface color region
    exact ⟨new, hw.countDone _⟩

theorem works_drawPatch (hr : c.device.driver.objects.Regular) (context : Context) (surface : Size)
    (patch : TexturePatch) : ∃ new, c.Works context (c.drawPatch context surface patch).2 new := by
  unfold drawPatch
  split
  · exact ⟨[], (Idles.skip c).works context⟩
  · exact works_draw hr _ context fun p calls => p.isQuiet_texturingCalls surface patch

theorem works_drawTexture (hr : c.device.driver.objects.Regular) (context : Context)
    (surface : Size) (patch : TexturePatch) :
    ∃ new, c.Works context (c.drawTexture context surface patch).2 new := by
  obtain ⟨new, hw⟩ := works_drawPatch hr context surface patch
  rw [drawTexture_eq]
  exact ⟨new, hw.countDone _⟩

/-! ## Frames and readback -/

theorem idles_beginFrame (hr : c.device.driver.objects.Regular) : c.Idles c.beginFrame := by
  unfold beginFrame
  split
  · exact .refl c
  · exact ((Idles.refl c).performAll hr (by simp [Call.isQuiet])).focus _

theorem idles_resolve (hr : c.device.driver.objects.Regular) (set : BufferSet) :
    c.Idles (c.resolve set) := by
  unfold resolve
  split
  · exact .refl c
  · exact ((Idles.refl c).performAll hr (by simp [Call.isQuiet])).count _

/-- The calls at the end of a frame before the texture is drawn over the display. -/
def showingCalls : List Call :=
  [.bindFramebuffer .both none, .clearDepth (Numeric.Binary.ofNat 1), .clearStencil 0,
    .clear .depthStencil, .switch .blend false]

theorem idles_showingCalls (hr : c.device.driver.objects.Regular) (set : BufferSet) :
    c.Idles ((c.resolve set).performAll showingCalls) :=
  (idles_resolve hr set).performAll hr (by simp [showingCalls, Call.isQuiet])

/-- Shows the texture of a set on the display. -/
def present (c : Canvas) (set : BufferSet) (surface : Size) (context : Context) : Bool × Canvas :=
  countDone (fun s => { s with presents := s.presents + 1 })
    (((c.resolve set).performAll showingCalls).drawPatch context surface
      (.corner set.texture set.layout.size surface.width surface.height))

/-- Binds the framebuffer of the texture. -/
def bindTextured (c : Canvas) (set : BufferSet) : Canvas :=
  { c.performAll [.bindFramebuffer .both (some set.framebuffer)] with
    backing := c.backing.focusOn .color }

theorem endFrame_of_none (h : c.backing.set? = none) (surface : Size) (context : Context) :
    c.endFrame surface context = c := by
  unfold endFrame
  rw [h]

/-- A frame on a set ends with its texture being shown, and bound again. -/
theorem endFrame_of_set {set : BufferSet} (h : c.backing.set? = some set) (surface : Size)
    (context : Context) :
    c.endFrame surface context = (c.present set surface context).2.bindTextured set := by
  unfold endFrame present
  rw [h]
  dsimp only
  rw [← showingCalls]
  rcases ((c.resolve set).performAll showingCalls).drawPatch context surface
    (.corner set.texture set.layout.size surface.width surface.height) with ⟨_ | _, c'⟩ <;> rfl

theorem works_present (hr : c.device.driver.objects.Regular) (set : BufferSet) (surface : Size)
    (context : Context) : ∃ new, c.Works context (c.present set surface context).2 new := by
  have hbefore := idles_showingCalls hr set
  obtain ⟨new, hw⟩ := works_drawPatch (hbefore.grows.regular hr) context surface
    (.corner set.texture set.layout.size surface.width surface.height)
  exact ⟨new, (hw.after hbefore hr).countDone _⟩

theorem idles_bindTextured (hr : c.device.driver.objects.Regular) (set : BufferSet) :
    c.Idles (c.bindTextured set) :=
  ((Idles.refl c).performAll hr (by simp [Call.isQuiet])).focus _

theorem works_endFrame (hr : c.device.driver.objects.Regular) (surface : Size)
    (context : Context) : ∃ new, c.Works context (c.endFrame surface context) new := by
  cases hset : c.backing.set? with
  | none =>
    rw [endFrame_of_none hset]
    exact ⟨[], (Idles.refl c).works context⟩
  | some set =>
    obtain ⟨new, hw⟩ := works_present hr set surface context
    rw [endFrame_of_set hset]
    exact ⟨new, hw.idle (idles_bindTextured (hw.grows.regular hr) set) hr⟩

/-- The calls of a readback, by which alpha is made opaque in the texture of a set. -/
def opaqueCalls (set : BufferSet) : List Call :=
  [.bindFramebuffer .both (some set.framebuffer), .colorMask ⟨false, false, false, true⟩,
    .clearColor .opaqueBlack, .clear .colorOnly, .colorMask (Channels.all true)]

theorem readback_of_none (h : c.backing.set? = none) : c.readback = (none, c) := by
  unfold readback
  rw [h]

theorem readback_of_set {set : BufferSet} (h : c.backing.set? = some set) :
    c.readback = (some set.framebuffer,
      { (c.resolve set).performAll (opaqueCalls set) with
        backing := (c.resolve set).backing.focusOn .color }) := by
  unfold readback
  rw [h]
  rfl

theorem idles_readback (hr : c.device.driver.objects.Regular) : c.Idles c.readback.2 := by
  cases hset : c.backing.set? with
  | none =>
    rw [readback_of_none hset]
    exact .refl c
  | some set =>
    rw [readback_of_set hset]
    exact ((idles_resolve hr set).performAll hr (by simp [opaqueCalls, Call.isQuiet])).focus _

/-- Reading a pixel changes at most the device. -/
theorem sample_cases {α : Type} (c : Canvas) (surface : Size) (x y : Nat)
    (read : Device → Nat → Nat → α × Device) :
    (c.sample surface x y read).2 = c ∨
      ∃ row, (c.sample surface x y read).2 = { c with device := (read c.device x row).2 } := by
  unfold sample
  split
  · split
    · exact Or.inl rfl
    · rename_i row hrow
      exact Or.inr ⟨row, rfl⟩
  · exact Or.inl rfl

theorem idles_sample {α : Type} (hr : c.device.driver.objects.Regular) (surface : Size) (x y : Nat)
    {read : Device → Nat → Nat → α × Device}
    (hread : ∀ d row, ∃ call : Call, call.isQuiet = true ∧ (read d x row).2 = d.perform call) :
    c.Idles (c.sample surface x y read).2 := by
  obtain hs | ⟨row, hs⟩ := c.sample_cases surface x y read
  · rw [hs]
    exact .refl c
  · obtain ⟨call, hq, hd⟩ := hread c.device row
    have h : c.Idles (c.performAll [call]) := (Idles.refl c).performAll hr (by simpa using hq)
    rw [hs, hd]
    exact h

theorem idles_sampleColor (hr : c.device.driver.objects.Regular) (surface : Size) (x y : Nat) :
    c.Idles (c.sampleColor surface x y).2 :=
  idles_sample hr surface x y fun _ row => ⟨.readColor x row, rfl, rfl⟩

theorem idles_sampleDepth (hr : c.device.driver.objects.Regular) (surface : Size) (x y : Nat) :
    c.Idles (c.sampleDepth surface x y).2 :=
  idles_sample hr surface x y fun _ row => ⟨.readDepth x row, rfl, rfl⟩

theorem idles_sampleStencil (hr : c.device.driver.objects.Regular) (surface : Size) (x y : Nat) :
    c.Idles (c.sampleStencil surface x y).2 :=
  idles_sample hr surface x y fun _ row => ⟨.readStencil x row, rfl, rfl⟩

end Canvas

/-! ## Giving objects up -/

/-- A set has no shaders and no programs. -/
theorem BufferSet.kind_of_mem_handles {s : BufferSet} {x : Handle} (hx : x ∈ s.handles) :
    x.kind ≠ .shader ∧ x.kind ≠ .program := by
  obtain ⟨part, -, rfl⟩ := List.mem_map.mp hx
  cases part <;> exact ⟨nofun, nofun⟩

theorem BufferSet.disjoint_handles (s : BufferSet) (p : BuiltProgram) :
    s.handles.Disjoint p.handles := by
  intro x hx hp
  obtain ⟨hshader, hprogram⟩ := kind_of_mem_handles hx
  simp only [BuiltProgram.handles, List.mem_cons, List.mem_nil_iff, or_false] at hp
  rcases hp with rfl | rfl | rfl
  exacts [hprogram rfl, hshader rfl, hshader rfl]

/-- Releasing the programs deletes those that can be used in the context. -/
theorem Canvas.device_releasePrograms (c : Canvas) (context : Context) :
    (c.releasePrograms context).device = c.device.performAll
      (ProgramCache.deletions (Purpose.all.filterMap fun p =>
        (c.programs.usable? p context).bind (·.built?))) := by
  rw [← ProgramCache.foldl_delete]
  rfl

theorem Canvas.drops_releasePrograms (c : Canvas) (context : Context) :
    c.device.Drops (c.releasePrograms context).device
      ((Purpose.all.filterMap fun p =>
        (c.programs.usable? p context).bind (·.built?)).flatMap BuiltProgram.handles) := by
  rw [device_releasePrograms]
  exact c.device.drops_performAll (ProgramCache.deletes?_deletions _)

end Compositor
