import Compositor.Proofs.Canvas.Working
import Compositor.Proofs.Driver.Viewing

/-!
# Drawing

What a draw does to what can be seen. It leaves the pipeline and the bound framebuffers as they are,
and the display too, unless the display is drawn to. If the program that it finds serves, a draw
that counts as done paints its colour on what is drawn to (`Canvas.Paints`); one that does not count
paints nothing, and the cache knows why there was no program.
-/

namespace Compositor

open Numeric

/-! ## Driver calls -/

namespace Driver

/-- The colour that is painted with a program for textures: that of the texture, if it is live. -/
theorem paintedColor?_textured {d : Driver} {id : ProgramId} {p : Program} {target : TextureTarget}
    {texture : TextureId} (hid : d.bindings.program = some id)
    (hp : d.objects.programs.get? id = some p) (hl : p.linked = true)
    (hpaint : p.paint = .textured target) (htexture : d.bindings.texture target = some texture) :
    d.paintedColor? = (d.objects.textures.get? texture).map (·.fill.color) := by
  rw [paintedColor?, hid, Option.bind_some, hp, Option.filter_some_pos hl]
  simp [hpaint, htexture]

/-- The colour that is painted with a program for one colour: the value set last. -/
theorem paintedColor?_solid {d : Driver} {id : ProgramId} {p : Program} {location : Nat}
    {value : Rgba} (hid : d.bindings.program = some id)
    (hp : d.objects.programs.get? id = some (p.setUniform location value)) (hl : p.linked = true)
    (hpaint : p.paint = .solid) : d.paintedColor? = some value.quantize := by
  have hl' : (p.setUniform location value).linked = true := hl
  rw [paintedColor?, hid, Option.bind_some, hp, Option.filter_some_pos hl']
  simp [Program.setUniform, hpaint]

/-- A program that is gone paints nothing. -/
theorem paintedColor?_of_not_live {d : Driver} {id : ProgramId} (hid : d.bindings.program = some id)
    (hl : ¬ d.objects.Live id.handle) : d.paintedColor? = none := by
  rw [Objects.Live, not_not, Objects.stored?_program, Option.map_eq_none_iff] at hl
  rw [paintedColor?, hid, Option.bind_some, hl]
  rfl

end Driver

namespace Device

theorem live_performAll_of_isQuiet (d : Device) {calls : List Call}
    (hq : ∀ c ∈ calls, c.isQuiet = true) (x : Handle) :
    (d.performAll calls).driver.objects.Live x ↔ d.driver.objects.Live x := by
  have h := (d.grows_performAll hq).live x
  rwa [List.mem_nil_iff, or_false] at h

/-- The device `e` is `d` after drawing on what is bound: the pipeline and the framebuffers are the
same, and so is the display unless it is what is drawn to. -/
structure SameStage (d e : Device) : Prop where
  pipeline : e.driver.pipeline = d.driver.pipeline
  read : e.driver.bindings.read = d.driver.bindings.read
  draw : e.driver.bindings.draw = d.driver.bindings.draw
  display : d.driver.bindings.draw ≠ none → e.driver.display = d.driver.display

theorem SameStage.refl (d : Device) : d.SameStage d := ⟨rfl, rfl, rfl, fun _ => rfl⟩

theorem SameStage.trans {d e f : Device} (h : d.SameStage e) (h' : e.SameStage f) :
    d.SameStage f where
  pipeline := h'.pipeline.trans h.pipeline
  read := h'.read.trans h.read
  draw := h'.draw.trans h.draw
  display hd := (h'.display (h.draw ▸ hd)).trans (h.display hd)

theorem SameScene.stage {d e : Device} (h : d.SameScene e) : d.SameStage e :=
  ⟨h.pipeline, h.read, h.draw, fun _ => h.display⟩

/-- What is bound and shown after calls that bind no framebuffer. -/
theorem stage_performAll (d : Device) {calls : List Call}
    (h : ∀ c ∈ calls, c.setsFramebuffer = false) :
    (d.performAll calls).driver.bindings.read = d.driver.bindings.read ∧
      (d.performAll calls).driver.bindings.draw = d.driver.bindings.draw ∧
      (d.driver.bindings.draw ≠ none →
        (d.performAll calls).driver.display = d.driver.display) := by
  refine performAll_induct (P := fun v => v.bindings.read = d.driver.bindings.read ∧
    v.bindings.draw = d.driver.bindings.draw ∧
      (d.driver.bindings.draw ≠ none → v.display = d.driver.display))
    (fun c hc v hv => ?_) ⟨rfl, rfl, fun _ => rfl⟩
  obtain ⟨hread, hdraw, hdisplay⟩ := hv
  obtain ⟨hread', hdraw'⟩ := v.framebuffers_perform (h c hc)
  exact ⟨hread'.trans hread, hdraw'.trans hdraw,
    fun hd => (v.display_perform_offscreen c (hdraw ▸ hd)).trans (hdisplay hd)⟩

/-- The overlay puts the depth test and the depth mask back. -/
theorem stage_overlay (d : Device) {calls : List Call}
    (h : ∀ c ∈ calls, c.setsPipeline = false ∧ c.setsFramebuffer = false) :
    d.SameStage (d.overlay calls) := by
  obtain ⟨hread, hdraw, hdisplay⟩ := d.stage_performAll
    (forall_mem_overlay (fun _ => rfl) (fun _ => rfl) (fun c hc => (h c hc).2) d.driver.pipeline)
  rw [overlay_eq]
  refine ⟨?_, hread, hdraw, hdisplay⟩
  simp only [Call.depthOff, Pipeline.depthBack, performAll_append]
  have hcalls := pipeline_performAll ((d.perform (.switch .depthTest false)).perform
    (.depthMask false)) fun c hc => (h c hc).1
  simp only [performAll_cons, performAll_nil]
  generalize ((d.perform (.switch .depthTest false)).perform (.depthMask false)).performAll calls =
    e at hcalls
  cases ht : d.driver.pipeline.depthTest with
  | false =>
    simp only [Bool.false_eq_true, if_false, performAll_nil]
    show ({ e.driver.pipeline with depthMask := d.driver.pipeline.depthMask } : Pipeline) = _
    rw [hcalls]
    show ({ d.driver.pipeline with depthTest := false } : Pipeline) = _
    rw [← ht]
  | true =>
    simp only [if_true, performAll_cons, performAll_nil]
    show ({ e.driver.pipeline with
      depthTest := true, depthMask := d.driver.pipeline.depthMask } : Pipeline) = _
    rw [hcalls]
    show ({ d.driver.pipeline with depthTest := true } : Pipeline) = _
    rw [← ht]

end Device

/-! ## Draws -/

namespace BuiltProgram

variable {p : BuiltProgram} {calls : List Call}

theorem still_fillingCalls (surface : Size) (color : Rgba) (region : Rect)
    (h : p.fillingCalls? surface color region = some calls) :
    ∀ c ∈ calls, c.setsPipeline = false ∧ c.setsFramebuffer = false := by
  obtain ⟨location, streams, -, rfl⟩ := fillingCalls?_eq_some h
  simp [Call.setsPipeline, Call.setsFramebuffer]

theorem still_texturingCalls (surface : Size) (patch : TexturePatch)
    (h : p.texturingCalls? surface patch = some calls) :
    ∀ c ∈ calls, c.setsPipeline = false ∧ c.setsFramebuffer = false := by
  obtain ⟨setup, streams, rfl | ⟨location, rfl⟩, -, rfl⟩ := texturingCalls?_eq_some h <;>
    simp [Call.setsPipeline, Call.setsFramebuffer]

end BuiltProgram

namespace Canvas

variable {c : Canvas}

theorem stage_draw (hr : c.device.driver.objects.Regular) (purpose : Purpose) (context : Context)
    {calls? : BuiltProgram → Option (List Call)}
    (h : ∀ p calls, calls? p = some calls →
      ∀ call ∈ calls, call.setsPipeline = false ∧ call.setsFramebuffer = false) :
    c.device.SameStage (c.draw purpose context calls?).2.device := by
  obtain ⟨entry, programs, device, he, hcases⟩ := c.draw_cases purpose context calls?
  obtain ⟨-, -, hscene, -, -⟩ := ProgramCache.entry_gains hr he
  obtain ⟨-, hd⟩ | ⟨p, calls, -, hp, hd⟩ := hcases
  all_goals rw [hd]
  · exact hscene.stage
  · exact hscene.stage.trans (device.stage_overlay (h p calls hp))

theorem stage_fill (hr : c.device.driver.objects.Regular) (context : Context) (surface : Size)
    (color : Rgba) (region : Rect) :
    c.device.SameStage (c.fill context surface color region).2.device := by
  rw [fill_eq]
  split
  · exact .refl _
  · rw [device_countDone]
    exact stage_draw hr .solid context fun p calls => p.still_fillingCalls surface color region

theorem stage_drawPatch (hr : c.device.driver.objects.Regular) (context : Context)
    (surface : Size) (patch : TexturePatch) :
    c.device.SameStage (c.drawPatch context surface patch).2.device := by
  unfold drawPatch
  split
  · exact .refl _
  · exact stage_draw hr _ context fun p calls => p.still_texturingCalls surface patch

theorem stage_drawTexture (hr : c.device.driver.objects.Regular) (context : Context)
    (surface : Size) (patch : TexturePatch) :
    c.device.SameStage (c.drawTexture context surface patch).2.device := by
  rw [drawTexture_eq, device_countDone]
  exact stage_drawPatch hr context surface patch

end Canvas

/-! ## What is painted -/

theorem Objects.get?_of_outline_program {o : Objects} {id : ProgramId} {p : Program}
    (h : o.outline? id.handle = some (.program p)) :
    ∃ values, o.programs.get? id = some { p with values := values } := by
  rw [outline?, stored?_program] at h
  cases hp : o.programs.get? id with
  | none => simp [hp] at h
  | some q =>
    rw [hp] at h
    cases h
    exact ⟨q.values, rfl⟩

namespace Device

theorem view_performAll (d : Device) {calls : List Call} (h : ∀ c ∈ calls, c.isUnseen = true) :
    d.driver.SameView (d.performAll calls).driver :=
  performAll_induct (P := fun v => d.driver.SameView v)
    (fun c hc v hv => hv.trans (v.view_perform (h c hc))) (.refl _)

/-- Of an overlay is seen what its strip paints after the calls before it. -/
theorem view_overlay (d : Device) {ready finish : List Call} {streams : List VertexStream}
    (hs : streams ≠ []) (hready : ∀ c ∈ ready, c.isUnseen = true)
    (hfinish : ∀ c ∈ finish, c.isUnseen = true) {color? : Option Pixel}
    (hc : (d.performAll (Call.depthOff ++ ready)).driver.paintedColor? = color?) :
    (d.driver.brush color?).SameView
      (d.overlay (ready ++ [.drawStrip streams 4] ++ finish)).driver := by
  have hsplit : d.overlay (ready ++ [.drawStrip streams 4] ++ finish) =
      ((d.performAll (Call.depthOff ++ ready)).perform (.drawStrip streams 4)).performAll
        (finish ++ d.driver.pipeline.depthBack) := by
    simp only [overlay_eq, List.append_assoc, performAll_append]
    rfl
  have hbefore : ∀ c ∈ Call.depthOff ++ ready, c.isUnseen = true :=
    List.forall_mem_append.mpr ⟨Call.forall_mem_depthOff (fun _ => rfl) (fun _ => rfl), hready⟩
  have hafter : ∀ c ∈ finish ++ d.driver.pipeline.depthBack, c.isUnseen = true :=
    List.forall_mem_append.mpr
      ⟨hfinish, d.driver.pipeline.forall_mem_depthBack (fun _ => rfl) (fun _ => rfl)⟩
  have hstrip := (d.performAll (Call.depthOff ++ ready)).driver.view_drawStrip hs (Nat.le_succ 3)
  have hrest := ((d.performAll (Call.depthOff ++ ready)).perform
    (.drawStrip streams 4)).view_performAll hafter
  rw [hsplit, ← hc]
  exact (((d.view_performAll hbefore).brush _).trans hstrip).trans hrest

end Device

/-- A program that is put to use after the preparations of an overlay is the one that draws. -/
theorem Device.program_prepared (d : Device) (id : ProgramId) {calls : List Call}
    (h : ∀ c ∈ calls, c.setsProgram = false) :
    (d.performAll (Call.depthOff ++ (.useProgram (some id) :: calls))).driver.bindings.program =
      some id := by
  rw [performAll_append, performAll_cons]
  exact performAll_induct (P := fun v => v.bindings.program = some id)
    (fun c hc v hv => (v.program_perform (h c hc)).trans hv) rfl

/-- Of an overlay with a program that is gone nothing is seen. -/
theorem Device.view_overlay_of_not_live (d : Device) {id : ProgramId}
    (hgone : ¬ d.driver.objects.Live id.handle) {ready finish : List Call}
    {streams : List VertexStream} (hs : streams ≠ [])
    (hready : ∀ c ∈ ready, c.isUnseen = true ∧ c.setsProgram = false)
    (hfinish : ∀ c ∈ finish, c.isUnseen = true) :
    d.driver.SameView
      (d.overlay
        ((.useProgram (some id) :: ready) ++ [.drawStrip streams 4] ++ finish)).driver := by
  have hunseen : ∀ c ∈ Call.useProgram (some id) :: ready, c.isUnseen = true :=
    List.forall_mem_cons.mpr ⟨rfl, fun c hc => (hready c hc).1⟩
  have hquiet : ∀ c ∈ Call.depthOff ++ (.useProgram (some id) :: ready), c.isQuiet = true := by
    refine List.forall_mem_append.mpr
      ⟨Call.forall_mem_depthOff (fun _ => rfl) (fun _ => rfl), fun c hc => ?_⟩
    exact (Call.isUnseen_iff.mp (hunseen c hc)).1
  have hnone : (d.performAll
      (Call.depthOff ++ (.useProgram (some id) :: ready))).driver.paintedColor? = none :=
    Driver.paintedColor?_of_not_live (d.program_prepared id fun c hc => (hready c hc).2)
      fun hl => hgone ((d.live_performAll_of_isQuiet hquiet _).mp hl)
  exact d.view_overlay hs hunseen hfinish hnone

/-- Setting a uniform leaves a program that serves in service. -/
theorem BuiltProgram.Serves.get?_setUniform {p : BuiltProgram} {purpose : Purpose} {o : Objects}
    (h : p.Serves purpose o) (location : Nat) (value : Rgba) :
    ∃ program : Program,
      (o.programs.modify p.program (·.setUniform location value)).get? p.program =
          some (program.setUniform location value) ∧
        program.linked = true ∧ program.paint = purpose.paint := by
  obtain ⟨program, hprogram, hlinked, hpaint⟩ := h.linked
  obtain ⟨values, hget⟩ := Objects.get?_of_outline_program hprogram
  refine ⟨{ program with values := values }, ?_, hlinked, hpaint⟩
  rw [Table.get?_modify, if_pos rfl, hget]
  rfl

/-- What the calls that draw with a program for a purpose come to. They paint a colour, which they
have from what is seen of the driver, and nothing if the program is gone. -/
structure Draft (purpose : Purpose) (calls? : BuiltProgram → Option (List Call))
    (color? : Driver → Option Pixel) : Prop where
  quiet : ∀ p calls, calls? p = some calls → ∀ c ∈ calls, c.isQuiet = true
  color : ∀ d e : Driver, d.SameView e → color? e = color? d
  serve : ∀ (p : BuiltProgram) (d : Device), p.Serves purpose d.driver.objects →
    ∃ calls, calls? p = some calls ∧
      (d.driver.brush (color? d.driver)).SameView (d.overlay calls).driver
  miss : ∀ (p : BuiltProgram) (d : Device), p.IsLocated purpose →
    ¬ d.driver.objects.Live p.program.handle →
      ∃ calls, calls? p = some calls ∧ d.driver.SameView (d.overlay calls).driver

/-- The calls that fill a region. -/
theorem draft_filling (surface : Size) (color : Rgba) (region : Rect) :
    Draft .solid (fun p => p.fillingCalls? surface color region)
      fun _ => some color.quantize := by
  let data := (region.positions surface).flatMap fun p => [p.1, p.2]
  have hcalls (p : BuiltProgram) (hp : p.IsLocated .solid) :
      p.fillingCalls? surface color region =
        some ([.useProgram (some p.program), .uniformColor 0 color] ++
          [.drawStrip [⟨0, 2, 2, 0, data⟩] 4] ++ [.useProgram none]) := by
    obtain ⟨hposition, hlocation⟩ := hp
    simp only [BuiltProgram.fillingCalls?, hposition, hlocation]
    rfl
  refine ⟨fun p calls => p.isQuiet_fillingCalls surface color region, fun _ _ _ => rfl,
    fun p d hp => ⟨_, hcalls p hp.located, ?_⟩, fun p d hp hgone => ⟨_, hcalls p hp, ?_⟩⟩
  · -- the uniform of the program has the colour when the strip is drawn
    obtain ⟨program, hset, hlinked, hpaint⟩ := hp.get?_setUniform 0 color
    exact d.view_overlay (List.cons_ne_nil _ _) (List.all_eq_true.mp rfl)
      (List.all_eq_true.mp rfl)
      (Driver.paintedColor?_solid (d.program_prepared _ (by simp [Call.setsProgram])) hset hlinked
        hpaint)
  · exact d.view_overlay_of_not_live hgone (List.cons_ne_nil _ _)
      (List.forall_mem_singleton.mpr ⟨rfl, rfl⟩) (List.all_eq_true.mp rfl)

/-- The calls that draw a texture. -/
theorem draft_texturing (surface : Size) (patch : TexturePatch) :
    Draft (.textured patch.target) (fun p => p.texturingCalls? surface patch)
      fun d => (d.objects.textures.get? patch.texture).map (·.fill.color) := by
  let data := patch.vertices surface
  have hcalls (p : BuiltProgram) (hp : p.IsLocated (.textured patch.target)) :
      p.texturingCalls? surface patch =
        some ([.useProgram (some p.program), .uniformInt 0 0, .activeTexture 0,
            .bindTexture patch.target (some patch.texture)] ++
          [.drawStrip [⟨0, 2, 4, 0, data⟩, ⟨1, 2, 4, 2, data⟩] 4] ++
            [.bindTexture patch.target none, .useProgram none]) := by
    obtain ⟨hposition, hcoordinate, hsampler⟩ := hp
    simp only [BuiltProgram.texturingCalls?, hposition, hcoordinate, hsampler]
    rfl
  refine ⟨fun p calls => p.isQuiet_texturingCalls surface patch,
    fun d e h => congrArg _ (h.texture patch.texture),
    fun p d hp => ⟨_, hcalls p hp.located, ?_⟩, fun p d hp hgone => ⟨_, hcalls p hp, ?_⟩⟩
  · obtain ⟨program, hset, hlinked, hpaint⟩ := hp.get?_setUniform 0 ⟨Binary.ofInt 0, 0, 0, 0⟩
    -- the texture is bound when the strip is drawn
    have hbound (b : Bindings) :
        (b.bindTexture (some patch.texture) patch.target).texture patch.target =
          some patch.texture := by
      cases patch.target <;> rfl
    exact d.view_overlay (List.cons_ne_nil _ _) (List.all_eq_true.mp rfl)
      (List.all_eq_true.mp rfl)
      (Driver.paintedColor?_textured (d.program_prepared _ (by simp [Call.setsProgram])) hset
        hlinked hpaint (hbound _))
  · exact d.view_overlay_of_not_live hgone (List.cons_ne_nil _ _)
      (List.forall_mem_cons.mpr ⟨⟨rfl, rfl⟩, List.forall_mem_cons.mpr ⟨⟨rfl, rfl⟩,
        List.forall_mem_singleton.mpr ⟨rfl, rfl⟩⟩⟩) (List.all_eq_true.mp rfl)

namespace ProgramCache

/-- The program that is found for a purpose, if one is, serves. -/
def Provides (c : ProgramCache) (purpose : Purpose) (context : Context) (o : Objects) : Prop :=
  ∀ owner p, c.usable? purpose context = some ⟨owner, .ok p⟩ → p.Serves purpose o

variable {c c' : ProgramCache} {purpose : Purpose} {context owner : Context} {d e : Device}

/-- In a live context the programs that are found are those that were built in it. -/
theorem Serves.provides {o : Objects} (hs : c.Serves context o) (hc : c.IsLive)
    (hl : context.isLive = true) (purpose : Purpose) : c.Provides purpose context o := by
  intro owner p hu
  obtain ⟨hcached, howner⟩ := Option.filter_eq_some_iff.mp hu
  obtain rfl : owner = context :=
    (Context.compatible_iff_of_isLive (hc purpose _ hcached) hl).mp howner
  exact hs purpose p hcached

/-- Asking for a program is not seen. -/
theorem view_entry (hr : d.driver.objects.Regular) {entry : CachedProgram}
    (h : c.entry purpose context d = (entry, c', e)) : d.driver.SameView e.driver := by
  obtain ⟨new, hgrows, hscene, hstored, hgains⟩ := entry_gains hr h
  refine ⟨hscene.read, hscene.draw, congrArg _ hscene.pipeline, congrArg _ hscene.pipeline,
    hscene.display, fun x hx => ?_⟩
  by_cases hl : d.Live x
  · exact hstored x hl
  -- what was built are a program and its shaders
  · have hnew : x ∉ new := by
      cases hgains with
      | found => exact List.not_mem_nil
      | failed => exact List.not_mem_nil
      | @built _ p _ _ _ hp _ =>
        rw [hp.mem_iff]
        simp only [BuiltProgram.handles, List.mem_cons, List.mem_nil_iff, or_false]
        rintro (rfl | rfl | rfl)
        exacts [hx.2 rfl, hx.1 rfl, hx.1 rfl]
    have he : ¬ e.Live x := fun hlive => ((hgrows.live x).mp hlive).elim hl hnew
    rw [not_not.mp he, not_not.mp hl]

/-- The program that is given serves, if it does where it is found. -/
theorem serves_entry (hr : d.driver.objects.Regular) {p : BuiltProgram}
    (hs : c.Provides purpose context d.driver.objects)
    (h : c.entry purpose context d = (⟨owner, .ok p⟩, c', e)) :
    p.Serves purpose e.driver.objects := by
  obtain ⟨hu, rfl, -⟩ | ⟨outcome, -, hb, he, -⟩ := entry_cases h
  · exact hs _ _ hu
  · cases he
    exact (Device.builds_buildProgram hr hb).2

end ProgramCache

namespace Canvas

/-- What a draw with the program for a purpose comes to: it is left out, for want of the program, or
it is done with a program that serves, and paints a colour if it has one. -/
inductive Paints (c : Canvas) (purpose : Purpose) (context : Context) (color? : Option Pixel) :
    Bool × Canvas → Prop where
  | left {c' : Canvas} {owner : Context} {failure : Failure} :
    c'.programs.cached? purpose = some ⟨owner, .error failure⟩ → owner.compatible context = true →
    c.device.driver.SameView c'.device.driver → Paints c purpose context color? (false, c')
  | done {c' : Canvas} {owner : Context} {p : BuiltProgram} :
    c'.programs.cached? purpose = some ⟨owner, .ok p⟩ → owner.compatible context = true →
    p.Serves purpose c'.device.driver.objects →
    (c.device.driver.brush color?).SameView c'.device.driver →
    Paints c purpose context color? (true, c')

variable {c : Canvas} {context : Context}

/-- Counting what was done. -/
theorem Paints.countDone {purpose : Purpose} {color? : Option Pixel} {r : Bool × Canvas}
    (h : c.Paints purpose context color? r) (f : CanvasStatistics → CanvasStatistics) :
    c.Paints purpose context color? (Canvas.countDone f r) := by
  cases h with
  | left hcached howner hview => exact .left hcached howner hview
  | done hcached howner hserves hview => exact .done hcached howner hserves hview

theorem paints_draw (hr : c.device.driver.objects.Regular) {purpose : Purpose}
    (hs : c.programs.Provides purpose context c.device.driver.objects)
    {calls? : BuiltProgram → Option (List Call)} {color? : Driver → Option Pixel}
    (hd : Draft purpose calls? color?) :
    c.Paints purpose context (color? c.device.driver) (c.draw purpose context calls?) := by
  unfold draw program?
  rcases he : c.programs.entry purpose context c.device with ⟨⟨owner, outcome⟩, programs, device⟩
  obtain ⟨hcached, howner⟩ := ProgramCache.cached?_entry he
  have hview := ProgramCache.view_entry hr he
  cases outcome with
  | error failure => exact .left hcached howner hview
  | ok p =>
    obtain ⟨new, hgrows, -, -, -⟩ := ProgramCache.entry_gains hr he
    have hserves := ProgramCache.serves_entry hr hs he
    obtain ⟨calls, hp, hpainted⟩ := hd.serve p device hserves
    have hbind : Option.bind (CachedProgram.built? ⟨owner, .ok p⟩) calls? = some calls := hp
    dsimp only
    rw [hbind]
    have hoverlay := device.grows_overlay (hd.quiet p calls hp)
    refine .done hcached howner
      (hserves.congr (hoverlay.outline_of_live (hgrows.regular hr) hserves.live)) ?_
    rw [hd.color _ _ hview] at hpainted
    exact (hview.brush _).trans hpainted

/-- Nothing is seen of a draw if what is found for it is a program that is gone. -/
theorem misses_draw {purpose : Purpose} {entry : CachedProgram}
    (hu : c.programs.usable? purpose context = some entry)
    (hgone : ∀ p, entry.outcome = .ok p →
      p.IsLocated purpose ∧ ¬ c.device.driver.objects.Live p.program.handle)
    {calls? : BuiltProgram → Option (List Call)} {color? : Driver → Option Pixel}
    (hd : Draft purpose calls? color?) :
    c.device.driver.SameView (c.draw purpose context calls?).2.device.driver := by
  obtain ⟨owner, outcome⟩ := entry
  unfold draw program? ProgramCache.entry
  rw [hu]
  cases outcome with
  | error failure => exact .refl _
  | ok p =>
    obtain ⟨hl, hgone⟩ := hgone p rfl
    obtain ⟨calls, hp, hview⟩ := hd.miss p c.device hl hgone
    have hbind : Option.bind (CachedProgram.built? ⟨owner, .ok p⟩) calls? = some calls := hp
    dsimp only
    rw [hbind]
    exact hview

/-- A fill of a region that is not degenerate paints its colour. -/
theorem paints_fill (hr : c.device.driver.objects.Regular)
    (hs : c.programs.Provides .solid context c.device.driver.objects)
    {surface : Size} {region : Rect} (hn : (surface.isEmpty || region.isDegenerate) = false)
    (color : Rgba) :
    c.Paints .solid context (some color.quantize) (c.fill context surface color region) := by
  have hd := paints_draw hr hs (draft_filling surface color region)
  rw [fill_eq, hn]
  exact hd.countDone _

theorem misses_fill {entry : CachedProgram}
    (hu : c.programs.usable? .solid context = some entry)
    (hgone : ∀ p, entry.outcome = .ok p →
      p.IsLocated .solid ∧ ¬ c.device.driver.objects.Live p.program.handle)
    (surface : Size) (color : Rgba) (region : Rect) :
    c.device.driver.SameView (c.fill context surface color region).2.device.driver := by
  have hview := misses_draw hu hgone (draft_filling surface color region)
  rw [fill_eq]
  split
  · exact .refl _
  · rw [device_countDone]
    exact hview

/-- The colour of a texture, if it is live. -/
def textureColor? (c : Canvas) (id : TextureId) : Option Pixel :=
  (c.device.driver.objects.textures.get? id).map (·.fill.color)

/-- A texture drawn with nothing about it degenerate paints its colour. -/
theorem paints_drawPatch (hr : c.device.driver.objects.Regular) {patch : TexturePatch}
    (hs : c.programs.Provides (.textured patch.target) context c.device.driver.objects)
    {surface : Size}
    (hn : (surface.isEmpty || patch.textureSize.isEmpty || patch.region.isDegenerate) = false) :
    c.Paints (.textured patch.target) context (c.textureColor? patch.texture)
      (c.drawPatch context surface patch) := by
  unfold drawPatch
  rw [if_neg (by rw [hn]; exact Bool.false_ne_true)]
  exact paints_draw hr hs (draft_texturing surface patch)

theorem paints_drawTexture (hr : c.device.driver.objects.Regular) {patch : TexturePatch}
    (hs : c.programs.Provides (.textured patch.target) context c.device.driver.objects)
    {surface : Size}
    (hn : (surface.isEmpty || patch.textureSize.isEmpty || patch.region.isDegenerate) = false) :
    c.Paints (.textured patch.target) context (c.textureColor? patch.texture)
      (c.drawTexture context surface patch) := by
  rw [drawTexture_eq]
  exact (paints_drawPatch hr hs hn).countDone _

theorem misses_drawTexture {entry : CachedProgram} {patch : TexturePatch}
    (hu : c.programs.usable? (.textured patch.target) context = some entry)
    (hgone : ∀ p, entry.outcome = .ok p →
      p.IsLocated (.textured patch.target) ∧ ¬ c.device.driver.objects.Live p.program.handle)
    (surface : Size) :
    c.device.driver.SameView (c.drawTexture context surface patch).2.device.driver := by
  have hview : c.device.driver.SameView (c.drawPatch context surface patch).2.device.driver := by
    unfold drawPatch
    split
    · exact .refl _
    · exact misses_draw hu hgone (draft_texturing surface patch)
  rw [drawTexture_eq, device_countDone]
  exact hview

end Canvas

end Compositor
