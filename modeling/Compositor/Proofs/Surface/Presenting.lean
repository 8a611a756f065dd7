import Compositor.Proofs.Canvas.Obliging
import Compositor.Proofs.Canvas.Presenting
import Compositor.Proofs.Surface.Ledger

/-!
# Frames of a surface

A frame that is drawn into a set is shown when it ends, whatever was drawn in it and whatever state
the driver was left in before. For that the set of the current context has to be intact and its
programs have to serve, which they are throughout every run in which the application leaves the
objects of the surface alone.
-/

namespace Compositor

open Numeric Relation

namespace Surface

/-- The application neither deletes nor alters an object that the surface holds. It may make objects
of its own, and it may bind and draw what it likes. -/
def LeavesAlone (s : Surface) : Incident → Prop
  | .call call => ∀ x ∈ s.holdings, s.driver.target? call ≠ some x
  | .compile id _ => id.handle ∉ s.holdings
  | _ => True

/-- The set of the current context is intact, and its programs serve. -/
structure Sound (s : Surface) : Prop where
  size : ∀ set, s.canvas.backing.set? = some set →
    s.size.isEmpty = false ∧ set.layout.size.isEmpty = false
  intact : ∀ set, s.canvas.backing.set? = some set → set.order.owner = s.driver.context →
    set.Intact s.driver.profile.sampleLimit s.driver.objects
  serves : s.canvas.programs.Serves s.driver.context s.driver.objects

variable {s s' : Surface}

theorem sound_start (profile : Profile) (settings : Settings) (policy : Policy) :
    (withPolicy profile settings policy).Sound :=
  ⟨nofun, nofun, nofun⟩

/-! ## Moves -/

namespace Sound

/-- Growth keeps the set intact. -/
theorem intact_of_grows (h : s.Sound) (hr : s.driver.objects.Regular) {new : List Handle}
    (hg : s.canvas.device.Grows s'.canvas.device new)
    (hb : s'.canvas.backing.set? = s.canvas.backing.set?) :
    ∀ set, s'.canvas.backing.set? = some set → set.order.owner = s'.driver.context →
      set.Intact s'.driver.profile.sampleLimit s'.driver.objects := by
  intro set hset howner
  have hcontext : s'.driver.context = s.driver.context := hg.host.context
  have hprofile : s'.driver.profile = s.driver.profile := hg.host.profile
  have hi := h.intact set (hb ▸ hset) (hcontext ▸ howner)
  rw [hprofile]
  exact hi.congr fun x hx => hg.outline_of_live hr (hi.live hx)

theorem move (h : s.Sound) (ht : s.Tracks) (hm : s.Moves s') : s'.Sound := by
  have hr := ht.regular
  have hcontext : s'.driver.context = s.driver.context := hm.host.context
  have hprofile : s'.driver.profile = s.driver.profile := hm.host.profile
  cases hm with
  | idles hc hs hi =>
    refine ⟨by rw [hs, hi.set]; exact h.size, h.intact_of_grows hr hi.grows hi.set, ?_⟩
    rw [hcontext]
    exact (ProgramCache.Gains.found hi.entries).serves h.serves fun x => hi.grows.outline_of_live hr
  | draws hd hc hs hw =>
    refine ⟨by rw [hs, hw.set]; exact h.size, h.intact_of_grows hr hw.grows hw.set, ?_⟩
    rw [hcontext]
    exact (hd ▸ hw.gains).serves h.serves fun x => hw.grows.outline_of_live hr
  | adopts hc hs hd hp hb =>
    have hdriver : s'.driver = s.driver := congrArg Device.driver hd
    have hset : ∀ set, s'.canvas.backing.set? = some set → s.canvas.backing.set? = some set := by
      intro set hset
      rw [hb] at hset
      split at hset
      · exact hset
      · cases hset
    refine ⟨fun set he => hs ▸ h.size set (hset set he), fun set he ho => ?_, ?_⟩
    · rw [hdriver] at ho ⊢
      exact h.intact set (hset set he) ho
    · rw [hdriver, hp]
      exact h.serves
  | destroys hi hc hp hb hd =>
    refine ⟨by rw [hb]; exact nofun, by rw [hb]; exact nofun, ?_⟩
    rw [hcontext, hp]
    intro purpose p he
    refine (h.serves purpose p he).congr ?_
    show s'.canvas.device.driver.objects.outline? _ = _
    rw [hd]
    cases s.canvas.backing.set? with
    | none => rfl
    | some set =>
      -- no program is a part of the set
      exact (Backing.drops_delete set _).outline fun hm =>
        set.disjoint_handles p hm List.mem_cons_self
  | releases hi hc hs hd =>
    have hdrops := s.canvas.drops_releasePrograms s.context
    refine ⟨by rw [hs, hd]; exact h.size, fun set he ho => ?_, by rw [hd]; exact nofun⟩
    have hintact := h.intact set (by rw [hd] at he; exact he) (hcontext ▸ ho)
    rw [hprofile]
    refine hintact.congr fun x hx => ?_
    show s'.canvas.device.driver.objects.outline? x = _
    rw [hd]
    refine hdrops.outline fun hm => ?_
    obtain ⟨p, -, hp⟩ := List.mem_flatMap.mp hm
    exact set.disjoint_handles p hx hp
  | fills hd hc hs hp hn hb hm hl he =>
    -- the new set is as it was made, and the programs are not touched
    refine ⟨fun set hset => ?_, fun set hset ho => ?_, ?_⟩
    · rw [hb] at hset
      cases hset
      rw [hs, hm.layout]
      exact ⟨he, hl⟩
    · rw [hb] at hset
      cases hset
      rw [hprofile]
      exact hm.unpainted.intact hm.multisample hm.packed
    · rw [hcontext, hp]
      exact fun purpose p hentry => (h.serves purpose p hentry).congr
        (hm.grows.outline_of_live hr (h.serves purpose p hentry).live)

theorem moves (h : s.Sound) (ht : s.Tracks) (hm : ReflTransGen Moves s s') : s'.Sound := by
  induction hm with
  | refl => exact h
  | tail hsteps hstep ih => exact ih.move (ht.moves hsteps) hstep

/-! ## Incidents -/

/-- Whatever leaves the outlines of what is held alone. -/
theorem keep (h : s.Sound) {i : Incident}
    (hc : (s.undergo i).driver.context = s.driver.context)
    (hp : (s.undergo i).driver.profile = s.driver.profile)
    (ho : ∀ x ∈ s.holdings, s.driver.objects.Live x →
      (s.undergo i).driver.objects.outline? x = s.driver.objects.outline? x) :
    (s.undergo i).Sound := by
  refine ⟨h.size, fun set hset howner => ?_, ?_⟩
  · rw [hc] at howner
    have hi := h.intact set hset howner
    have hheld : s.heldSet = set.handles := heldSet_of_set? hset howner
    rw [hp]
    exact hi.congr fun x hx => ho x (List.mem_append_left _ (hheld ▸ hx)) (hi.live hx)
  · rw [hc]
    intro purpose p he
    have hs := h.serves purpose p he
    refine hs.congr (ho _ (List.mem_append_right _ ?_) hs.live)
    exact List.mem_flatMap.mpr
      ⟨p, ProgramCache.mem_owned_iff.mpr ⟨purpose, he⟩, List.mem_cons_self⟩

theorem undergo (h : s.Sound) (ht : s.Tracks) {i : Incident} (ha : s.LeavesAlone i) :
    (s.undergo i).Sound := by
  cases i with
  | call call =>
    exact h.keep (s.driver.context_perform call) (s.driver.profile_perform call)
      fun x hx _ => Driver.outline?_perform (ha x hx)
  | attempt what =>
    have hhost := s.canvas.device.sameHost_attempt what
    exact h.keep hhost.context hhost.profile fun x _ hx =>
      Device.outline_attempt ht.regular what hx
  | compile id source =>
    have hhost := s.canvas.device.sameHost_compile id source
    refine h.keep hhost.context hhost.profile fun x hx _ => ?_
    refine s.canvas.device.outline_compile source ?_
    rintro rfl
    exact ha hx
  | setFaults faults => exact h.keep rfl rfl fun _ _ _ => rfl
  | pretend pretence => exact h.keep rfl rfl fun _ _ _ => rfl
  | freshContext => exact h.keep rfl rfl fun _ _ _ => rfl
  | loseContext =>
    -- the new context has no set and no programs yet
    refine ⟨h.size, fun set hset howner => ?_, fun purpose p he => ?_⟩
    · rw [(ht.set set hset).1] at howner
      exact absurd howner (ne_loseContext ht.context_dated)
    · exact absurd rfl (ne_loseContext (ht.programs_dated purpose _ he))

end Sound

theorem Run.sound (h : Run LeavesAlone s) : s.Sound := by
  induction h with
  | start profile settings policy => exact sound_start profile settings policy
  | operate hrun hm ih => exact ih.moves hrun.tracks (moves_operate hrun.tracks hm)
  | undergo hrun ha ih => exact ih.undergo hrun.tracks ha

/-! ## Drawing a frame -/

/-- What is done to draw a frame. -/
inductive Stroke where
  | clear (planes : Planes)
  | clearColor (color : Rgba)
  | clearDepth (depth : Single)
  | clearStencil (stencil : UInt8)
  | colorMask (mask : ColorMask)
  | depthMask (write : Bool)
  | switch (toggle : Toggle) (on : Bool)
  | fill (color : Rgba) (region : Rect)
  | drawTexture (patch : TexturePatch)

/-- The surface after a stroke. -/
def stroke (s : Surface) : Stroke → Surface
  | .clear planes => s.undergo (.call (.clear planes))
  | .clearColor color => s.undergo (.call (.clearColor color))
  | .clearDepth depth => s.undergo (.call (.clearDepth depth))
  | .clearStencil stencil => s.undergo (.call (.clearStencil stencil))
  | .colorMask mask => s.undergo (.call (.colorMask mask))
  | .depthMask write => s.undergo (.call (.depthMask write))
  | .switch toggle on => s.undergo (.call (.switch toggle on))
  | .fill color region => s.operate (.fill color region)
  | .drawTexture patch => s.operate (.drawTexture patch)

/-- A frame is being drawn into a set, to the framebuffer that is bound, while the display shows
what it did. -/
structure Underway (s : Surface) (set : BufferSet) (bound : FramebufferId) (display : Fill) :
    Prop where
  run : Run LeavesAlone s
  backed : s.canvas.backing.set? = some set
  inStep : s.InStep
  draw : s.driver.bindings.draw = some bound
  display : s.driver.display = display

namespace Underway

variable {set : BufferSet} {bound : FramebufferId} {display : Fill}

theorem context_eq (h : s.Underway set bound display) : s.context = s.driver.context :=
  h.inStep.context_eq (h.run.tracks.set set h.backed).2

theorem isLive (h : s.Underway set bound display) : s.context.isLive = true :=
  (h.run.tracks.set set h.backed).2

theorem offscreen (h : s.Underway set bound display) : s.driver.bindings.draw ≠ none := by
  rw [h.draw]
  exact nofun

theorem call (h : s.Underway set bound display) {c : Call} (hq : c.isQuiet = true)
    (hb : c.setsFramebuffer = false) : (s.undergo (.call c)).Underway set bound display where
  run := h.run.undergo fun x _ => by
    rw [s.driver.target?_of_isQuiet hq]
    exact nofun
  backed := h.backed
  inStep := by
    rw [InStep, show (s.undergo (.call c)).driver.context = _ from s.driver.context_perform c]
    exact h.inStep
  draw := ((s.driver.framebuffers_perform hb).2).trans h.draw
  display := (s.driver.display_perform_offscreen c h.offscreen).trans h.display

theorem draws (h : s.Underway set bound display) {op : Operation} (hm : s.May op)
    (hset : (s.operate op).canvas.backing.set? = s.canvas.backing.set?)
    (hs : s.canvas.device.SameStage (s.operate op).canvas.device) :
    (s.operate op).Underway set bound display where
  run := h.run.operate hm
  backed := hset.trans h.backed
  inStep := inStep_of_moves (moves_operate h.run.tracks hm) h.inStep
  draw := hs.draw.trans h.draw
  display := (hs.display h.offscreen).trans h.display

/-- No stroke ends the frame or reaches the display. -/
theorem stroke (h : s.Underway set bound display) (x : Stroke) :
    (s.stroke x).Underway set bound display := by
  have hr := h.run.tracks.regular
  cases x with
  | fill color region =>
    have hm : s.May (.fill color region) := ⟨h.inStep, h.isLive⟩
    obtain ⟨new, hw⟩ := Canvas.works_fill hr s.context s.size color region
    exact h.draws hm hw.set (Canvas.stage_fill hr s.context s.size color region)
  | drawTexture patch =>
    have hm : s.May (.drawTexture patch) := ⟨h.inStep, h.isLive⟩
    obtain ⟨new, hw⟩ := Canvas.works_drawTexture hr s.context s.size patch
    exact h.draws hm hw.set (Canvas.stage_drawTexture hr s.context s.size patch)
  | _ => exact h.call rfl rfl

theorem strokes (h : s.Underway set bound display) (l : List Stroke) :
    (l.foldl Surface.stroke s).Underway set bound display := by
  induction l generalizing s with
  | nil => exact h
  | cons x l ih => exact ih (h.stroke x)

theorem intact (h : s.Underway set bound display) :
    set.Intact s.driver.profile.sampleLimit s.driver.objects :=
  h.run.sound.intact set h.backed ((h.run.tracks.set set h.backed).1.trans h.context_eq)

/-- What is drawn to is the image that is shown in the end. -/
theorem slot? (h : s.Underway set bound display) :
    s.driver.slot? set.target .color = some set.drawnImage := by
  rw [Driver.slot?, Objects.get?_of_outline_framebuffer h.intact.target_outline]
  rfl

/-- The end of the frame shows it. -/
theorem presents (h : s.Underway set bound display)
    (hf : s.endFrame.canvas.programs.failure? (.textured .texture2d) = none) :
    ∃ fill, s.driver.objects.fill? set.drawnImage = some fill ∧
      s.canvas.Presents set fill s.endFrame.canvas := by
  have ht := h.run.tracks
  have hs := h.run.sound
  obtain ⟨hsize, hlayout⟩ := hs.size set h.backed
  exact Canvas.presents_endFrame ht.regular h.isLive ht.programs (h.context_eq ▸ hs.serves)
    h.backed h.intact hsize hlayout hf

end Underway

theorem underway_beginFrame {set : BufferSet} (h : Run LeavesAlone s) (hm : s.May .beginFrame)
    (hb : s.beginFrame = (.ok (), s')) (hset : s'.canvas.backing.set? = some set) :
    s'.Underway set set.target s'.driver.display := by
  have hs' : s.operate .beginFrame = s' := congrArg Prod.snd hb
  have hrun : Run LeavesAlone s' := hs' ▸ h.operate hm
  have hdrain := h.tracks.moves (moves_drain h.tracks hm.1)
  have hi : s'.InStep := hs' ▸ inStep_of_moves (moves_drain_beginFrame hdrain hm.2) hm.2
  refine ⟨hrun, hset, hi, ?_, rfl⟩
  obtain ⟨hne, he⟩ | ⟨-, he⟩ := s.beginFrame_cases
  · exact absurd (congrArg Prod.fst (he.symm.trans hb)) hne
  · obtain rfl : s.update.2.begun = s' := congrArg Prod.snd (he.symm.trans hb)
    -- beginning keeps the set, and binds it
    have hupdated := hdrain.moves (moves_drain_update hdrain hm.2)
    have hset' : s.update.2.canvas.backing.set? = some set :=
      (Canvas.idles_beginFrame hupdated.regular).set.symm.trans hset
    show s.update.2.canvas.beginFrame.device.driver.bindings.draw = _
    rw [Canvas.beginFrame, hset']
    rfl

/-- A frame that begins on a set, is drawn by any strokes and ends with a program that did not fail
shows the colour of the image that it was drawn to. Until it ends, the display is as it was. -/
theorem presents_of_frame (h : Run LeavesAlone s) (hm : s.May .beginFrame)
    (hb : s.beginFrame = (.ok (), s')) {set : BufferSet}
    (hset : s'.canvas.backing.set? = some set) (strokes : List Stroke)
    (hf : (strokes.foldl stroke s').endFrame.canvas.programs.failure? (.textured .texture2d) =
      none) :
    s'.driver.bindings.draw = some set.target ∧
      s'.driver.slot? set.target .color = some set.drawnImage ∧
      (strokes.foldl stroke s').driver.display = s'.driver.display ∧
      ∃ fill, (strokes.foldl stroke s').driver.objects.fill? set.drawnImage = some fill ∧
        (strokes.foldl stroke s').canvas.Presents set fill
          (strokes.foldl stroke s').endFrame.canvas := by
  have hbegun := underway_beginFrame h hm hb hset
  have hdrawn := hbegun.strokes strokes
  exact ⟨hbegun.draw, hbegun.slot?, hdrawn.display, hdrawn.presents hf⟩

/-! ## Frames without faults -/

theorem Run.beginFrame {app : Surface → Incident → Prop} (h : Run app s)
    (hm : s.May .beginFrame) : Run app s.beginFrame.2 := h.operate hm

/-- In a run of operations alone no fault is planned. -/
theorem Run.faults_eq_none (h : Run (fun _ _ => False) s) : s.canvas.device.faults = .none := by
  induction h with
  | start => rfl
  | operate hrun hm ih => exact (host_of_moves (moves_operate hrun.tracks hm)).faults.trans ih
  | undergo _ ha => cases ha

theorem Run.isObliging (h : Run (fun _ _ => False) s)
    (hp : s.driver.pretence.failCompile = false ∧ s.driver.pretence.failLink = false)
    (hw : ∀ purpose ∈ Purpose.all, s.canvas.programs.failure? purpose = none) :
    s.canvas.IsObliging := by
  refine ⟨h.tracks.regular, ⟨fun n => ?_, fun n => ?_, hp.1, hp.2⟩,
    fun purpose => hw purpose purpose.mem_all⟩
  · rw [h.faults_eq_none]
    rfl
  · rw [h.faults_eq_none]
    rfl

/-- A frame can be begun in a set, and no program failed or will fail in it. -/
def Begins (s : Surface) (set : BufferSet) : Prop :=
  s.beginFrame.1 = .ok () ∧ s.beginFrame.2.canvas.backing.set? = some set ∧
    (s.beginFrame.2.driver.pretence.failCompile = false ∧
      s.beginFrame.2.driver.pretence.failLink = false) ∧
    ∀ purpose ∈ Purpose.all, s.beginFrame.2.canvas.programs.failure? purpose = none

instance (s : Surface) (set : BufferSet) : Decidable (s.Begins set) :=
  inferInstanceAs (Decidable (_ ∧ _))

theorem Begins.eq_ok {set : BufferSet} (hb : s.Begins set) :
    s.beginFrame = (.ok (), s.beginFrame.2) :=
  Prod.ext hb.1 rfl

theorem Begins.isObliging {set : BufferSet} (hb : s.Begins set) (h : Run (fun _ _ => False) s)
    (hm : s.May .beginFrame) : s.beginFrame.2.canvas.IsObliging :=
  (h.beginFrame hm).isObliging hb.2.2.1 hb.2.2.2

theorem isObliging_stroke (h : s.canvas.IsObliging) (x : Stroke) :
    (s.stroke x).canvas.IsObliging := by
  cases x with
  | fill color region => exact h.fill s.context s.size color region
  | drawTexture patch => exact h.drawTexture s.context s.size patch
  | _ => exact (h.performAll [_]).congr rfl rfl

theorem isObliging_strokes (h : s.canvas.IsObliging) (strokes : List Stroke) :
    (strokes.foldl stroke s).canvas.IsObliging := by
  induction strokes generalizing s with
  | nil => exact h
  | cons x strokes ih => exact ih (isObliging_stroke h x)

/-- A first frame with two samples, cleared to black with no green let through. -/
theorem presents_of_first_frame :
    let s := ((withPolicy .full .standard .always).operate (.adoptContext (.live 1))).operate
      (.resize ⟨4, 4⟩)
    let strokes := [Stroke.colorMask ⟨true, false, true, true⟩, .clearColor .opaqueBlack,
      .clear .all]
    let set : BufferSet := ⟨⟨⟨4, 4⟩, 2, .live 1⟩, ⟨⟨4, 4⟩, 2, true⟩, ⟨1⟩, ⟨2⟩, some ⟨⟨3⟩, ⟨4⟩⟩,
      .packed ⟨5⟩⟩
    s.beginFrame.2.canvas.backing.set? = some set ∧
      ∃ fill, (strokes.foldl stroke s.beginFrame.2).driver.objects.fill? (.renderbuffer ⟨4⟩) =
          some fill ∧
        (strokes.foldl stroke s.beginFrame.2).canvas.Presents set fill
          (strokes.foldl stroke s.beginFrame.2).endFrame.canvas := by
  intro s strokes set
  have hrun : Run (fun _ _ => False) s := .reported _ _ _ _ _
  have hm : s.May .beginFrame := ⟨trivial, Or.inr rfl⟩
  have hbegins : s.Begins set := by decide +kernel
  have hobliging := isObliging_strokes (hbegins.isObliging hrun hm) strokes
  obtain ⟨-, -, -, hpresents⟩ := presents_of_frame (hrun.mono fun _ _ => False.elim) hm
    hbegins.eq_ok hbegins.2.1 strokes ((hobliging.endFrame _ _).programs _)
  exact ⟨hbegins.2.1, hpresents⟩

end Surface

end Compositor
