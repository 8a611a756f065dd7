import Compositor.Proofs.Canvas.Drawing
import Compositor.Proofs.Program.Crafting

/-!
# The traces of an overlay

An overlay leaves no trace but its pixels. Depth plays no part in it, and it is put back what was
switched off; what was bound for it is taken out of the bindings again. An overlay that is left out
leaves no trace, whatever was attempted to get a program for it. There is one exception to that: a
name bound before it was handed out may be given to a program that does not link. That program is
deleted again, and its name is out of use from then on. It named nothing before and names nothing
after, so what would be drawn is the same.
-/

namespace Compositor

open Objects

/-! ## What an overlay changes -/

namespace Driver

variable {d e f : Driver} {x : Handle}

/-- The program in use. A name that names nothing is in use to no effect. -/
def programInUse? (d : Driver) : Option ProgramId :=
  d.bindings.program.filter d.objects.programs.contains

/-- The driver `e` is `d` after an attempt that left nothing behind. -/
structure Untouched (d e : Driver) : Prop where
  pipeline : e.pipeline = d.pipeline
  display : e.display = d.display
  stored : ∀ x, e.objects.stored? x = d.objects.stored? x
  /-- Nothing else is bound. At most a name is out of use that a program to come was given. -/
  bindings : e.bindings = d.bindings ∨
    d.bindings.program = some d.programToCome ∧ e.bindings = { d.bindings with program := none }
  inUse : e.programInUse? = d.programInUse?

theorem Untouched.refl (d : Driver) : d.Untouched d :=
  ⟨rfl, rfl, fun _ => rfl, Or.inl rfl, rfl⟩

/-- The contents after a colour, if any, was painted where the colour mask lets it through. -/
def tint (d : Driver) (color? : Option Pixel) (fill : Fill) : Fill :=
  match color? with
  | none => fill
  | some color => { fill with color := Channels.masked d.pipeline.colorMask color fill.color }

/-- The driver `e` is `d` after an overlay was drawn with a program: a colour was painted on what is
drawn to, and uniform values of the program were set. -/
structure Overlaid (d e : Driver) (program : ProgramId) (color? : Option Pixel) : Prop where
  pipeline : e.pipeline = d.pipeline
  display : e.display = if d.bindings.draw = none then d.tint color? d.display else d.display
  stored : ∀ x, d.objects.Live x → x ≠ program.handle → e.objects.stored? x =
    if (d.drawImage? .color).map Image.handle = some x then
      (d.objects.stored? x).map (Stored.mapFill (d.tint color?))
    else d.objects.stored? x
  /-- All of the program but the values of its uniforms. -/
  outline : d.objects.Live program.handle →
    e.objects.outline? program.handle = d.objects.outline? program.handle

/-! ### Brushes -/

theorem display_brush (d : Driver) (color? : Option Pixel) :
    (d.brush color?).display =
      if d.bindings.draw = none then d.tint color? d.display else d.display := by
  cases color? with
  | none => exact (ite_self _).symm
  | some color => exact d.display_paint .color _

theorem stored?_brush (d : Driver) (color? : Option Pixel) (x : Handle) :
    (d.brush color?).objects.stored? x =
      if (d.drawImage? .color).map Image.handle = some x then
        (d.objects.stored? x).map (Stored.mapFill (d.tint color?))
      else d.objects.stored? x := by
  cases color? with
  | none =>
    have hmap : Stored.mapFill (d.tint none) = id := by
      funext s
      cases s <;> rfl
    rw [hmap, Option.map_id, id, ite_self]
    rfl
  | some color =>
    show (d.paint .color (d.tint (some color))).objects.stored? x = _
    rw [objects_paint]
    cases d.drawImage? .color with
    | none => rfl
    | some image =>
      dsimp only
      rw [stored?_modifyFill, Option.map_some]
      simp only [Option.some.injEq, eq_comm]

/-! ### Shaders and programs -/

/-- Painting leaves shaders and programs as they are. -/
theorem Painted.stored? (h : d.Painted e) (hx : ¬ IsScenery x) :
    e.objects.stored? x = d.objects.stored? x := by
  refine h.objects_induct (P := fun o => o.stored? x = d.objects.stored? x) rfl ?_
  intro o f image ho
  have hne : x ≠ image.handle := by
    rintro rfl
    exact hx (isScenery_image image)
  rw [stored?_modifyFill, if_neg hne, ho]

/-- Uniforms are set in the program in use. -/
theorem stored?_modifyProgram (d : Driver) (f : Program → Program)
    (hx : ∀ id, d.bindings.program = some id → x ≠ id.handle) :
    (d.modifyProgram f).objects.stored? x = d.objects.stored? x := by
  unfold modifyProgram
  split
  · rfl
  · rename_i id hid
    exact (stored?_modify (k := .program) d.objects id f x).trans (if_neg (hx id hid))

/-- A quiet call changes neither shaders nor programs that are not in use. -/
theorem stored?_perform_of_not_inUse {c : Call} (hq : c.isQuiet = true) (hx : ¬ IsScenery x)
    (hu : ∀ id, d.bindings.program = some id → x ≠ id.handle) :
    (d.perform c).objects.stored? x = d.objects.stored? x := by
  cases hp : c.paints with
  | true => exact (d.painted_perform hp).stored? hx
  | false =>
    have htarget : d.target? c ≠ some x := by
      rw [d.target?_of_isQuiet hq]
      exact (Option.some_ne_none x).symm
    cases hs : c.setsUniform with
    | false => exact stored?_perform hp hs htarget
    | true =>
      cases c with
      | uniformColor location value => exact d.stored?_modifyProgram _ hu
      | uniformInt location value => exact d.stored?_modifyProgram _ hu
      | _ => cases hs

end Driver

/-! ## The calls of an overlay -/

/-- What is left bound by a draw for a purpose: no program, and no texture to its target. -/
def Bindings.freed (b : Bindings) : Purpose → Bindings
  | .textured target => { b.bindTexture none target with program := none }
  | .solid => { b with program := none }

theorem Bindings.freed_of_no_program (b : Bindings) (purpose : Purpose) :
    Bindings.freed { b with program := none } purpose = b.freed purpose := by
  cases purpose with
  | textured target => cases target <;> rfl
  | solid => rfl

/-- The calls put a program to use, set up what it draws with, draw a strip, and free what they
bound. -/
structure Call.Overlays (calls : List Call) (id : ProgramId) (purpose : Purpose) : Prop where
  parts : ∃ ready streams finish,
    calls = (.useProgram (some id) :: ready) ++ [.drawStrip streams 4] ++ finish ∧ streams ≠ [] ∧
      (∀ c ∈ ready, c.isUnseen = true ∧ c.setsProgram = false) ∧
      ∀ c ∈ finish, c.isUnseen = true ∧ c.setsUniform = false
  still : ∀ c ∈ calls, c.setsPipeline = false ∧ c.setsFramebuffer = false
  quiet : ∀ c ∈ calls, c.isQuiet = true
  freed : ∀ b : Bindings, calls.foldl (fun b c => c.rebind b) b = b.freed purpose

namespace BuiltProgram

variable {p : BuiltProgram} {calls : List Call}

theorem overlays_fillingCalls {surface : Size} {color : Rgba} {region : Rect}
    (h : p.fillingCalls? surface color region = some calls) :
    Call.Overlays calls p.program .solid := by
  have hstill := p.still_fillingCalls surface color region h
  have hquiet := p.isQuiet_fillingCalls surface color region h
  obtain ⟨location, streams, hs, rfl⟩ := fillingCalls?_eq_some h
  refine ⟨⟨[.uniformColor location color], streams, [.useProgram none], rfl, hs, ?_, ?_⟩,
    hstill, hquiet, fun b => rfl⟩
  · exact List.forall_mem_singleton.mpr ⟨rfl, rfl⟩
  · exact List.forall_mem_singleton.mpr ⟨rfl, rfl⟩

theorem overlays_texturingCalls {surface : Size} {patch : TexturePatch}
    (h : p.texturingCalls? surface patch = some calls) :
    Call.Overlays calls p.program (.textured patch.target) := by
  have hstill := p.still_texturingCalls surface patch h
  have hquiet := p.isQuiet_texturingCalls surface patch h
  obtain ⟨setup, streams, hsetup, hs, rfl⟩ := texturingCalls?_eq_some h
  have hready : ∀ c ∈ setup ++
      [.activeTexture 0, .bindTexture patch.target (some patch.texture)],
      c.isUnseen = true ∧ c.setsProgram = false := by
    rcases hsetup with rfl | ⟨location, rfl⟩ <;>
      simp [Call.isUnseen, Call.isQuiet, Call.paints, Call.setsFramebuffer, Call.setsColors,
        Call.setsProgram]
  have hfinish : ∀ c ∈ [Call.bindTexture patch.target none, .useProgram none],
      c.isUnseen = true ∧ c.setsUniform = false := by
    simp [Call.isUnseen, Call.isQuiet, Call.paints, Call.setsFramebuffer, Call.setsColors,
      Call.setsUniform]
  refine ⟨⟨_, streams, _, by simp, hs, hready, hfinish⟩, hstill, hquiet, fun b => ?_⟩
  rcases hsetup with rfl | ⟨location, rfl⟩ <;> cases patch.target <;> rfl

end BuiltProgram

/-! ## Drawing it -/

namespace Device

variable {d e : Device}

/-- The bindings after an overlay are those after its calls. -/
theorem bindings_overlay (d : Device) (calls : List Call) :
    (d.overlay calls).driver.bindings =
      calls.foldl (fun b c => c.rebind b) d.driver.bindings := by
  rw [overlay_eq, bindings_performAll, List.foldl_append, List.foldl_append, Pipeline.depthBack]
  cases d.driver.pipeline.depthTest <;> rfl

/-- Calls that nobody sees and that set no uniforms change no object. -/
theorem stored?_performAll_of_isUnseen (d : Device) {calls : List Call}
    (h : ∀ c ∈ calls, c.isUnseen = true ∧ c.setsUniform = false) (x : Handle) :
    (d.performAll calls).driver.objects.stored? x = d.driver.objects.stored? x := by
  refine performAll_induct (P := fun v => v.objects.stored? x = d.driver.objects.stored? x)
    (fun c hc v hv => ?_) rfl
  obtain ⟨hunseen, hu⟩ := h c hc
  obtain ⟨hq, hp, -, -⟩ := Call.isUnseen_iff.mp hunseen
  have htarget : v.target? c ≠ some x := by
    rw [v.target?_of_isQuiet hq]
    exact (Option.some_ne_none x).symm
  exact (Driver.stored?_perform hp hu htarget).trans hv

/-- While a program is in use, other programs and all shaders stay as they are. -/
theorem stored?_performAll_of_inUse (d : Device) {id : ProgramId} {calls : List Call}
    (hid : d.driver.bindings.program = some id)
    (h : ∀ c ∈ calls, c.isQuiet = true ∧ c.setsProgram = false) {x : Handle} (hx : ¬ IsScenery x)
    (hne : x ≠ id.handle) :
    (d.performAll calls).driver.objects.stored? x = d.driver.objects.stored? x := by
  have hboth : (d.performAll calls).driver.bindings.program = some id ∧
      (d.performAll calls).driver.objects.stored? x = d.driver.objects.stored? x := by
    refine performAll_induct (P := fun v => v.bindings.program = some id ∧
      v.objects.stored? x = d.driver.objects.stored? x) (fun c hc v hv => ?_) ⟨hid, rfl⟩
    obtain ⟨hq, hp⟩ := h c hc
    have hspared : ∀ id', v.bindings.program = some id' → x ≠ id'.handle := by
      rintro id' hid'
      rw [hv.1] at hid'
      cases hid'
      exact hne
    exact ⟨(v.program_perform hp).trans hv.1,
      (Driver.stored?_perform_of_not_inUse hq hx hspared).trans hv.2⟩
  exact hboth.2

/-- Of shaders and programs an overlay changes the program that it is drawn with alone. -/
theorem stored?_overlay (d : Device) {id : ProgramId} {purpose : Purpose} {calls : List Call}
    (h : Call.Overlays calls id purpose) {x : Handle} (hx : ¬ IsScenery x) (hne : x ≠ id.handle) :
    (d.overlay calls).driver.objects.stored? x = d.driver.objects.stored? x := by
  obtain ⟨ready, streams, finish, rfl, -, hready, hfinish⟩ := h.parts
  have hsplit : d.overlay ((.useProgram (some id) :: ready) ++ [.drawStrip streams 4] ++ finish) =
      ((d.performAll (Call.depthOff ++ [.useProgram (some id)])).performAll
        (ready ++ [.drawStrip streams 4])).performAll (finish ++ d.driver.pipeline.depthBack) := by
    simp [overlay_eq, performAll_append]
  have hbefore : ∀ c ∈ Call.depthOff ++ [.useProgram (some id)],
      c.isUnseen = true ∧ c.setsUniform = false :=
    List.forall_mem_append.mpr ⟨Call.forall_mem_depthOff (fun _ => ⟨rfl, rfl⟩) fun _ => ⟨rfl, rfl⟩,
      List.forall_mem_singleton.mpr ⟨rfl, rfl⟩⟩
  have hdraw : ∀ c ∈ ready ++ [.drawStrip streams 4], c.isQuiet = true ∧ c.setsProgram = false :=
    List.forall_mem_append.mpr
      ⟨fun c hc => ⟨(Call.isUnseen_iff.mp (hready c hc).1).1, (hready c hc).2⟩,
        List.forall_mem_singleton.mpr ⟨rfl, rfl⟩⟩
  have hafter : ∀ c ∈ finish ++ d.driver.pipeline.depthBack,
      c.isUnseen = true ∧ c.setsUniform = false :=
    List.forall_mem_append.mpr ⟨hfinish,
      d.driver.pipeline.forall_mem_depthBack (fun _ => ⟨rfl, rfl⟩) fun _ => ⟨rfl, rfl⟩⟩
  rw [hsplit, stored?_performAll_of_isUnseen _ hafter,
    stored?_performAll_of_inUse _ rfl hdraw hx hne, stored?_performAll_of_isUnseen _ hbefore]

/-- What an overlay with a program changes. -/
theorem overlaid_overlay (hr : d.driver.objects.Regular) {id : ProgramId} {purpose : Purpose}
    {calls : List Call} (h : Call.Overlays calls id purpose) :
    ∃ color?, d.driver.Overlaid (d.overlay calls).driver id color? := by
  obtain ⟨ready, streams, finish, hparts, hs, hready, hfinish⟩ := h.parts
  have hunseen : ∀ c ∈ Call.useProgram (some id) :: ready, c.isUnseen = true :=
    List.forall_mem_cons.mpr ⟨rfl, fun c hc => (hready c hc).1⟩
  have hview := d.view_overlay hs hunseen (fun c hc => (hfinish c hc).1) rfl
  rw [← hparts] at hview
  refine ⟨_, (d.stage_overlay h.still).pipeline, hview.display.trans (Driver.display_brush ..),
    fun x _ hne => ?_, fun hl => ?_⟩
  · by_cases hx : IsScenery x
    · exact (hview.stored x hx).trans (Driver.stored?_brush ..)
    · rw [d.stored?_overlay h hx hne, if_neg]
      intro himage
      obtain ⟨image, -, rfl⟩ := Option.map_eq_some_iff.mp himage
      exact hx (isScenery_image image)
  · exact (d.grows_overlay h.quiet).outline_of_live hr hl

end Device

/-! ## Getting the program -/

namespace Driver

variable {d e f : Driver}

/-- What is left out of sight and spares what is live may come before an overlay. -/
theorem Overlaid.after {program : ProgramId} {color? : Option Pixel}
    (h : e.Overlaid f program color?) (hp : e.pipeline = d.pipeline) (hv : d.SameView e)
    (hs : ∀ x, d.objects.Live x → e.objects.stored? x = d.objects.stored? x) :
    d.Overlaid f program color? := by
  have htint : e.tint color? = d.tint color? := by
    funext fill
    unfold tint
    rw [hp]
  have hlive (x : Handle) (hx : d.objects.Live x) : e.objects.Live x := by
    rw [Live, hs x hx]
    exact hx
  refine ⟨h.pipeline.trans hp, ?_, fun x hx hne => ?_, fun hx => ?_⟩
  · rw [h.display, htint, hv.draw, hv.display]
  · rw [h.stored x (hlive x hx) hne, htint, hv.drawImage?, hs x hx]
  · rw [h.outline (hlive _ hx), outline?_congr (hs _ hx)]

/-- An attempt that leaves all objects as they are, and takes at most the name out of use that a
program to come gets, leaves nothing behind. -/
theorem untouched_of_bindings (hr : d.objects.Regular) (hp : e.pipeline = d.pipeline)
    (hd : e.display = d.display) (hs : ∀ x, e.objects.stored? x = d.objects.stored? x)
    (hb : e.bindings = d.bindings ∨ d.bindings.program = some d.programToCome ∧
      e.bindings = { d.bindings with program := none }) : d.Untouched e := by
  have hcontains : e.objects.programs.contains = d.objects.programs.contains := by
    funext id
    have hlive : e.objects.Live id.handle ↔ d.objects.Live id.handle := by
      rw [Live, Live, hs]
    exact Bool.eq_iff_iff.mpr
      ((e.objects.live_iff_contains id).symm.trans (hlive.trans (d.objects.live_iff_contains id)))
  refine ⟨hp, hd, hs, hb, ?_⟩
  rcases hb with hb | ⟨hid, hb⟩
  · rw [programInUse?, programInUse?, hb, hcontains]
  · have hgone : d.objects.programs.contains d.programToCome = false := by
      refine Bool.eq_false_iff.mpr fun hc => ?_
      have hle : d.objects.issued + 3 ≤ d.objects.issued :=
        hr.name_le _ ((d.objects.live_iff_contains _).mpr hc)
      omega
    rw [programInUse?, programInUse?, hb, hid, Option.filter_some, hgone]
    rfl

end Driver

/-- Nothing is left behind by asking for a program that cannot be had. -/
theorem ProgramCache.untouched_entry {c c' : ProgramCache} {purpose : Purpose} {context : Context}
    {d e : Device} (hr : d.driver.objects.Regular) {entry : CachedProgram}
    (h : c.entry purpose context d = (entry, c', e))
    (hn : ∀ p, entry.built? = some p → ¬ p.IsLocated purpose) : d.driver.Untouched e.driver := by
  have hcrafts := confined_entry h
  obtain ⟨-, rfl, -⟩ | ⟨failure | p, -, hb, rfl, -⟩ := entry_cases h
  · exact .refl _
  · have hbuilds : d.Builds e [] := Device.builds_buildProgram hr hb
    exact Driver.untouched_of_bindings hr hbuilds.scene.pipeline hbuilds.scene.display
      hbuilds.adds.stored hcrafts.bindings_of_crafts
  · -- a program that was built has its locations
    obtain ⟨-, hserves⟩ := Device.builds_buildProgram hr hb
    exact absurd hserves.located (hn p rfl)

/-! ## Overlays on a canvas -/

namespace Canvas

/-- What an overlay for a purpose leaves behind: nothing if it is left out, and else the colour that
was drawn, with nothing bound that was bound for it. -/
inductive Overlays (c : Canvas) (purpose : Purpose) : Bool × Canvas → Prop where
  | left {c' : Canvas} : c.device.driver.Untouched c'.device.driver →
    Overlays c purpose (false, c')
  | done {c' : Canvas} {owner : Context} {p : BuiltProgram} {color? : Option Pixel} :
    c'.programs.cached? purpose = some ⟨owner, .ok p⟩ →
    c.device.driver.Overlaid c'.device.driver p.program color? →
    c'.device.driver.bindings = c.device.driver.bindings.freed purpose →
    Overlays c purpose (true, c')

variable {c c' : Canvas} {purpose : Purpose} {context : Context}

/-- Counting what was done. -/
theorem Overlays.countDone {r : Bool × Canvas} (h : c.Overlays purpose r)
    (f : CanvasStatistics → CanvasStatistics) : c.Overlays purpose (Canvas.countDone f r) := by
  cases h with
  | left hu => exact .left hu
  | done hcached hover hfreed => exact .done hcached hover hfreed

theorem overlays_skip (c : Canvas) (purpose : Purpose) : c.Overlays purpose c.skip :=
  .left (.refl _)

theorem overlays_draw (hr : c.device.driver.objects.Regular)
    {calls? : BuiltProgram → Option (List Call)}
    (hlocated : ∀ p, p.IsLocated purpose → calls? p ≠ none)
    (hcalls : ∀ p calls, calls? p = some calls → Call.Overlays calls p.program purpose) :
    c.Overlays purpose (c.draw purpose context calls?) := by
  obtain ⟨entry, programs, device, he, hcases⟩ := c.draw_cases purpose context calls?
  have hcrafts := ProgramCache.confined_entry he
  obtain ⟨hcached, -⟩ := ProgramCache.cached?_entry he
  obtain ⟨hnone, hd⟩ | ⟨p, calls, hp, hpcalls, hd⟩ := hcases
  all_goals rw [hd]
  · exact .left (ProgramCache.untouched_entry hr he fun p hp hl => hlocated p hl (hnone p hp))
  · obtain ⟨new, hgrows, hscene, hstored, -⟩ := ProgramCache.entry_gains hr he
    have hover := hcalls p calls hpcalls
    obtain ⟨color?, hoverlaid⟩ := Device.overlaid_overlay (hgrows.regular hr) hover
    have hbindings : (device.overlay calls).driver.bindings =
        c.device.driver.bindings.freed purpose := by
      rw [device.bindings_overlay, hover.freed]
      rcases hcrafts.bindings_of_crafts with hsame | ⟨-, hnone⟩
      · rw [hsame]
      · rw [hnone, Bindings.freed_of_no_program]
    obtain ⟨owner, failure | p'⟩ := entry
    · cases hp
    · cases hp
      exact .done hcached
        (hoverlaid.after hscene.pipeline (ProgramCache.view_entry hr he) hstored) hbindings

theorem overlays_fill (hr : c.device.driver.objects.Regular) (context : Context) (surface : Size)
    (color : Rgba) (region : Rect) :
    c.Overlays .solid (c.fill context surface color region) := by
  have hlocated (p : BuiltProgram) (hp : p.IsLocated .solid) :
      p.fillingCalls? surface color region ≠ none := by
    obtain ⟨hposition, hcolor⟩ := hp
    simp [BuiltProgram.fillingCalls?, hposition, hcolor]
  have hd : c.Overlays .solid
      (c.draw .solid context fun p => p.fillingCalls? surface color region) :=
    overlays_draw hr hlocated fun p calls => p.overlays_fillingCalls
  rw [fill_eq]
  split
  · exact c.overlays_skip .solid
  · exact hd.countDone _

theorem overlays_drawTexture (hr : c.device.driver.objects.Regular) (context : Context)
    (surface : Size) (patch : TexturePatch) :
    c.Overlays (.textured patch.target) (c.drawTexture context surface patch) := by
  have hlocated (p : BuiltProgram) (hp : p.IsLocated (.textured patch.target)) :
      p.texturingCalls? surface patch ≠ none := by
    obtain ⟨hposition, hcoordinate, -⟩ := hp
    simp [BuiltProgram.texturingCalls?, hposition, hcoordinate]
  have hd : c.Overlays (.textured patch.target) (c.drawPatch context surface patch) := by
    unfold drawPatch
    split
    · exact c.overlays_skip _
    · exact overlays_draw hr hlocated fun p calls => p.overlays_texturingCalls
  rw [drawTexture_eq]
  exact hd.countDone _

/-- Fills and draws of textures leave no trace but their pixels, whatever the cache holds and
whatever fails. -/
theorem overlays_of_reachable (hd : c.device.Reachable) (context : Context) (surface : Size) :
    (∀ color region, c.Overlays .solid (c.fill context surface color region)) ∧
      ∀ patch, c.Overlays (.textured patch.target) (c.drawTexture context surface patch) :=
  ⟨overlays_fill hd.regular context surface, overlays_drawTexture hd.regular context surface⟩

/-- Green is masked and the depth test is on: a fill, a draw with a program that is gone, and a fill
that is left out as its program does not link. -/
theorem overlays_of_masked_canvas :
    let c := (Canvas.create .full).performAll
      [.colorMask ⟨true, false, true, true⟩, .switch .depthTest true]
    let gone : BuiltProgram := ⟨⟨7⟩, ⟨5⟩, ⟨6⟩, some 0, some 1, none, some 0⟩
    let stale : Canvas := { c with
      programs := { c.programs with cached? := fun _ => some ⟨.live 1, .ok gone⟩ } }
    let spoiled : Canvas := { c with
      device := c.device.modifyDriver ({ · with pretence := ⟨false, true, none⟩ }) }
    (∃ filled, c.Overlays .solid (true, filled)) ∧
      (∃ drawn, stale.Overlays (.textured .rectangle) (true, drawn)) ∧
      ∃ left, spoiled.Overlays .solid (false, left) := by
  intro c gone stale spoiled
  let red : Rgba := ⟨Numeric.Binary.ofNat 1, 0, 0, Numeric.Binary.ofNat 1⟩
  let patch : TexturePatch := ⟨⟨1⟩, .rectangle, ⟨2, 2⟩, .ofSize 2 2, .ofSize 4 4⟩
  have hc : c.device.Reachable := .performAll (.create .full) _
  have hspoiled : spoiled.device.Reachable := .setPretence ⟨false, true, none⟩ hc
  obtain ⟨hfill, hdraw, hleft⟩ : (c.fill (.live 1) ⟨4, 4⟩ red (.ofSize 4 4)).1 = true ∧
      (stale.drawTexture (.live 1) ⟨4, 4⟩ patch).1 = true ∧
      (spoiled.fill (.live 1) ⟨4, 4⟩ red (.ofSize 4 4)).1 = false := by decide +kernel
  have hresult {c : Canvas} {purpose : Purpose} {r : Bool × Canvas} {drawn : Bool}
      (h : c.Overlays purpose r) (hr : r.1 = drawn) : ∃ c', c.Overlays purpose (drawn, c') :=
    ⟨r.2, hr ▸ h⟩
  exact ⟨hresult ((overlays_of_reachable hc (.live 1) ⟨4, 4⟩).1 red (.ofSize 4 4)) hfill,
    hresult ((overlays_of_reachable (c := stale) hc (.live 1) ⟨4, 4⟩).2 patch) hdraw,
    hresult ((overlays_of_reachable hspoiled (.live 1) ⟨4, 4⟩).1 red (.ofSize 4 4)) hleft⟩

/-- The third name is in use before it was handed out. A fill is left out, as its program does not
link; that program had the name, and with it the name went out of use. -/
theorem bindings_ne_of_unlinked_fill :
    let bound := (Canvas.create .full).performAll [.useProgram (some ⟨3⟩)]
    let c : Canvas := { bound with
      device := bound.device.modifyDriver ({ · with pretence := ⟨false, true, none⟩ }) }
    let red : Rgba := ⟨Numeric.Binary.ofNat 1, 0, 0, Numeric.Binary.ofNat 1⟩
    let r := c.fill (.live 1) ⟨4, 4⟩ red (.ofSize 4 4)
    c.device.Reachable ∧ r.1 = false ∧ c.device.driver.bindings.program = some ⟨3⟩ ∧
      r.2.device.driver.bindings.program = none ∧
      r.2.device.driver.bindings ≠ c.device.driver.bindings := by
  intro bound c red r
  have hbound : bound.device.Reachable := .performAll (.create .full) _
  have hreached : c.device.Reachable := .setPretence ⟨false, true, none⟩ hbound
  obtain ⟨hleft, hbefore, hafter⟩ : r.1 = false ∧
      c.device.driver.bindings.program = some ⟨3⟩ ∧
      r.2.device.driver.bindings.program = none := by decide +kernel
  refine ⟨hreached, hleft, hbefore, hafter, fun hsame => ?_⟩
  rw [hsame, hbefore] at hafter
  cases hafter

end Canvas

end Compositor
