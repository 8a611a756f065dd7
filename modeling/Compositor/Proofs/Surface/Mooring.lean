import Compositor.Proofs.Canvas.Mooring
import Compositor.Proofs.Surface.Retaining

/-!
# What is bound under a surface

As long as the application binds and deletes no framebuffers and the surface hears of every new
context before it is asked for anything else, the framebuffer that counts as the screen is what the
driver reads from and draws to, after every operation, whether it succeeded or not.

A new context has the display bound, and the surface is behind until the report reaches it. What it
does while it is behind, such as applying events that were sent before the loss, binds nothing, and
the report has it forget the set, so that it is moored to the display then.
-/

namespace Compositor

open Numeric

namespace Surface

/-! ## Reports in time -/

/-- A context may be reported: it was handed out, and once the surface is in step it is the current
one. -/
def MayReport (s : Surface) (context : Context) : Prop :=
  context.IsDated s.driver.contexts ∧ (s.context = s.driver.context → context = s.driver.context)

def MayHear (s : Surface) : Event → Prop
  | .adoptContext context => s.MayReport context
  | _ => True

/-- Events may be heard one after the other. -/
def MayHearAll : Surface → List Event → Prop
  | _, [] => True
  | s, e :: events => s.MayHear e ∧ (s.apply e).MayHearAll events

/-- An operation may be asked: a direct report names the current context, and for all else the
surface was told of it, or is told by the events that are applied first. -/
def MayAsk (s : Surface) : Operation → Prop
  | .send _ => True
  | .adoptContext context => context = s.driver.context
  | .update | .beginFrame => s.MayHearAll s.pending ∧ s.drain.InStep
  | _ => s.InStep

/-- The application binds and deletes no framebuffers. -/
def BindsNothing (_ : Surface) : Incident → Prop
  | .call call => call.setsFramebuffer = false
  | _ => True

/-! ## The invariant -/

/-- The surface is moored once it is in step, and the display is bound while it is behind. -/
structure Anchored (s : Surface) : Prop where
  regular : s.driver.objects.Regular
  current : s.driver.context.isLive = true
  current_dated : s.driver.context.IsDated s.driver.contexts
  context_dated : s.context.IsDated s.driver.contexts
  /-- A set belongs to the context reported last. -/
  set : ∀ set, s.canvas.backing.set? = some set →
    set.order.owner = s.context ∧ s.context.isLive = true
  moored : s.context = s.driver.context → s.canvas.Moored
  behind : s.context ≠ s.driver.context → s.canvas.device.Binds none

/-- Nothing happened to the contexts, but that more of them may have been handed out. -/
structure SameSite (s s' : Surface) : Prop where
  context : s'.context = s.context
  current : s'.driver.context = s.driver.context
  contexts : s.driver.contexts ≤ s'.driver.contexts

variable {s s' s'' : Surface}

theorem SameSite.refl (s : Surface) : s.SameSite s := ⟨rfl, rfl, Nat.le_refl _⟩

theorem SameSite.of_host (hc : s'.context = s.context)
    (hh : s.canvas.device.SameHost s'.canvas.device) : s.SameSite s' :=
  ⟨hc, hh.context, Nat.le_of_eq hh.contexts.symm⟩

theorem SameSite.trans (h : s.SameSite s') (h' : s'.SameSite s'') : s.SameSite s'' :=
  ⟨h'.context.trans h.context, h'.current.trans h.current, Nat.le_trans h.contexts h'.contexts⟩

theorem SameSite.inStep (h : s.SameSite s') (hi : s.InStep) : s'.InStep := by
  rw [InStep, h.context, h.current]
  exact hi

/-- The surface comes out anchored on the same site. -/
structure Anchors (s s' : Surface) : Prop where
  anchored : s'.Anchored
  site : s.SameSite s'

theorem Anchors.trans (h : s.Anchors s') (h' : s'.Anchors s'') : s.Anchors s'' :=
  ⟨h'.anchored, h.site.trans h'.site⟩

theorem anchored_start (profile : Profile) (settings : Settings) (policy : Policy) :
    (withPolicy profile settings policy).Anchored where
  regular := Objects.regular_emptyAfter 0
  current := rfl
  current_dated n hn := by
    cases hn
    exact Nat.le_refl 1
  context_dated := nofun
  set := nofun
  moored := nofun
  behind _ := ⟨rfl, rfl⟩

namespace Anchored

/-- Before the first report there is no set. -/
theorem set?_eq_none (h : s.Anchored) (hi : s.InStep) (hne : s.context ≠ s.driver.context) :
    s.canvas.backing.set? = none := by
  cases hset : s.canvas.backing.set? with
  | none => rfl
  | some set => exact absurd (hi.context_eq (h.set set hset).2) hne

theorem moored_of_inStep (h : s.Anchored) (hi : s.InStep) : s.canvas.Moored := by
  by_cases hc : s.context = s.driver.context
  · exact h.moored hc
  · exact Canvas.moored_of_none (h.behind hc) (h.set?_eq_none hi hc)

/-- A step that concerns no report. -/
theorem keep (h : s.Anchored) (hs : s.SameSite s') (hr : s'.driver.objects.Regular)
    (hset : ∀ set, s'.canvas.backing.set? = some set →
      set.order.owner = s.context ∧ s.context.isLive = true)
    (hm : s.canvas.Moored → s'.canvas.Moored)
    (hb : s.context ≠ s.driver.context → s.canvas.device.Binds none →
      s'.canvas.device.Binds none) : s'.Anchored := by
  have hsame : s'.context = s'.driver.context ↔ s.context = s.driver.context := by
    rw [hs.context, hs.current]
  refine ⟨hr, ?_, ?_, ?_, by rwa [hs.context], fun hc => hm (h.moored (hsame.mp hc)),
    fun hc => hb (mt hsame.mpr hc) (h.behind (mt hsame.mpr hc))⟩
  · rw [hs.current]
    exact h.current
  · rw [hs.current]
    exact h.current_dated.mono hs.contexts
  · rw [hs.context]
    exact h.context_dated.mono hs.contexts

/-- What is no part of the canvas does not matter. -/
theorem aside (h : s.Anchored) (hc : s'.context = s.context) (hcanvas : s'.canvas = s.canvas) :
    s.Anchors s' := by
  have hsite : s.SameSite s' := .of_host hc (by rw [hcanvas]; exact .refl _)
  refine ⟨h.keep hsite ?_ ?_ ?_ ?_, hsite⟩
  · show s'.canvas.device.driver.objects.Regular
    rw [hcanvas]
    exact h.regular
  all_goals rw [hcanvas]
  exacts [h.set, fun hm => hm, fun _ hb => hb]

/-- Work on the canvas of a surface in step. -/
theorem work (h : s.Anchored) (hi : s.InStep) {c : Canvas} (hm : c.Moored) {new : List Handle}
    (hg : s.canvas.device.Grows c.device new)
    (hset : c.backing.set? = s.canvas.backing.set?) :
    s.Anchors { s with canvas := c } := by
  have hsite : s.SameSite { s with canvas := c } := .of_host rfl hg.host
  refine ⟨h.keep hsite (hg.regular h.regular) (fun set he => h.set set (hset.symm.trans he))
    (fun _ => hm) fun hne _ => ?_, hsite⟩
  have hnone := Backing.screen?_eq_none (hset.trans (h.set?_eq_none hi hne))
  have hbound := hm.bound
  rwa [hnone] at hbound

/-- A step that leaves framebuffers alone, whether in step or behind. -/
theorem spare (h : s.Anchored) (hs : s.SameSite s') (hr : s'.driver.objects.Regular)
    (hb : s'.canvas.backing = s.canvas.backing)
    (hd : s.canvas.device.SparesFramebuffers s'.canvas.device) : s'.Anchored :=
  h.keep hs hr (by rw [hb]; exact h.set) (fun hm => hm.spare hb hd) fun _ hnone => hnone.spare hd

theorem calls (h : s.Anchored) {c : Canvas} {calls : List Call}
    (hc : ∀ call ∈ calls, call.setsFramebuffer = false) (hb : c.backing = s.canvas.backing)
    (hd : c.device = s.canvas.device.performAll calls) :
    s.Anchors { s with canvas := c } := by
  have hsite : s.SameSite { s with canvas := c } :=
    .of_host rfl (by rw [hd]; exact s.canvas.device.sameHost_performAll calls)
  refine ⟨h.spare hsite ?_ hb (by rw [hd]; exact s.canvas.device.sparesFramebuffers_performAll hc),
    hsite⟩
  show c.device.driver.objects.Regular
  rw [hd]
  exact Device.performAll_induct (P := fun v => v.objects.Regular)
    (fun call _ v hv => (v.edits_perform call).regular hv) h.regular

/-! ## Events -/

theorem destroy (h : s.Anchored) (size : Size) :
    s.Anchors { s with canvas := s.canvas.destroy, size := size } := by
  have hdrop := (s.canvas.backing.drops_destroy s.canvas.device).1
  have hsite : s.SameSite { s with canvas := s.canvas.destroy, size := size } :=
    .of_host rfl hdrop.host
  refine ⟨h.keep hsite (hdrop.edits.regular h.regular) (fun set he => ?_)
    (fun hm => hm.destroy) fun _ hb => Backing.binds_destroy hb nofun, hsite⟩
  have hnone : s.canvas.destroy.backing.set? = none := Backing.set?_destroy _ _
  rw [hnone] at he
  cases he

theorem release (h : s.Anchored) : s.Anchors s.release := by
  have hprograms := h.calls (c := s.canvas.releasePrograms s.context)
    (fun _ hc => (ProgramCache.sets_deletions hc).1) rfl
    (s.canvas.device_releasePrograms s.context)
  exact hprograms.trans (hprograms.anchored.destroy s.size)

theorem applySwapInterval (h : s.Anchored) : s.Anchors s.applySwapInterval := by
  have htold := h.calls
    (c := s.canvas.performAll [.swapInterval (FrameRate.swapInterval s.frameRate)])
    (by simp [Call.setsFramebuffer]) rfl rfl
  exact htold.trans (htold.anchored.aside rfl rfl)

theorem setFrameRate (h : s.Anchored) (rate : Single) : s.Anchors (s.setFrameRate rate).2 :=
  setFrameRate_induct ⟨h, .refl s⟩ (fun _ _ => h.aside rfl rfl)
    fun _ h => h.trans h.anchored.applySwapInterval

/-- A report that comes in time has the set forgotten only while the display is bound. -/
theorem adoptContext (h : s.Anchored) {context : Context} (hm : s.MayReport context) :
    (s.adoptContext context).Anchored := by
  obtain ⟨hdated, hcurrent⟩ := hm
  have hdriver := s.driver_adoptContext context
  obtain ⟨hc, hcanvas⟩ | ⟨hc, hcanvas⟩ := s.canvas_adoptContext context
  · exact (h.aside (Context.coincides_iff.mp hc).1.symm hcanvas).anchored
  · have hne : s.context ≠ s.driver.context := by
      intro he
      have hlive := h.current
      rw [← he] at hlive
      rw [hcurrent he, ← he, Context.coincides_iff.mpr ⟨rfl, hlive⟩] at hc
      cases hc
    have hbinds : (s.adoptContext context).canvas.device.Binds none := by
      rw [hcanvas]
      exact h.behind hne
    have hnone : (s.adoptContext context).canvas.backing.set? = none := by
      rw [hcanvas]
      rfl
    refine ⟨?_, ?_, ?_, ?_, fun set he => ?_, fun _ => Canvas.moored_of_none hbinds hnone,
      fun _ => hbinds⟩
    · rw [hdriver]
      exact h.regular
    · rw [hdriver]
      exact h.current
    · rw [hdriver]
      exact h.current_dated
    · rw [hdriver]
      exact hdated
    · rw [hnone] at he
      cases he

theorem apply (h : s.Anchored) {e : Event} (hm : s.MayHear e) : (s.apply e).Anchored := by
  cases e with
  | adoptContext context => exact h.adoptContext hm
  | resized size => exact (h.destroy size).anchored
  | frameRate rate => exact (h.setFrameRate rate).anchored
  | teardown => exact h.release.anchored

theorem drain (h : s.Anchored) (hm : s.MayHearAll s.pending) : s.drain.Anchored := by
  refine (drain_induct (P := fun events s₁ => s₁.Anchored ∧ s₁.MayHearAll events) ⟨h, hm⟩ ?_ ?_).1
  · exact fun _ _ _ h => ⟨h.1.apply h.2.1, h.2.2⟩
  · intro s₁ h
    have hcleared : s₁.Anchors { s₁ with pending := [] } := h.1.aside rfl rfl
    exact ⟨hcleared.anchored, trivial⟩

/-! ## Operations -/

theorem ensure (h : s.Anchored) (hi : s.InStep) (hn : s.needsSet = true)
    {outcome : Except Failure Unit}
    (he : s.onCanvas (s.canvas.ensure s.order s.capabilities) = (outcome, s')) :
    s.Anchors s' := by
  have hl : s.context.isLive = true := by
    simp only [needsSet, Bool.and_eq_true] at hn
    exact hn.1.2
  have hr := (retains_ensure h.regular hn he).regular
  have hmoored : (s.canvas.ensure s.order s.capabilities).2.Moored := by
    refine (h.moored_of_inStep hi).ensure h.regular _ fun set hset => ?_
    rw [(h.set set hset).1]
    exact Context.compatible_self _
  obtain ⟨b, e, hb, rfl⟩ := onCanvas_ensure he
  rw [Canvas.ensure, hb] at hmoored
  cases hs : s.canvas.backing.serves s.order with
  | true =>
    rw [Backing.ensure_of_serves hs] at hb
    cases hb
    exact ⟨h, .refl s⟩
  | false =>
    have hdiscard := (s.canvas.backing.drops_discard s.context s.canvas.device).1.host
    obtain ⟨new, hgrows, hordered⟩ := Backing.grows_of_ensure h.regular hs hb
    have hsite : SameSite s { s with canvas := { s.canvas with backing := b, device := e } } :=
      .of_host rfl (hdiscard.trans hgrows.host)
    refine ⟨h.keep hsite hr (fun set hset => ⟨?_, hl⟩) (fun _ => hmoored) ?_, hsite⟩
    · rw [(hordered set hset).1]
      rfl
    · exact fun hne => absurd (hi.context_eq hl) hne

theorem update (h : s.drain.Anchored) (hi : s.drain.InStep) : s.drain.Anchors s.update.2 := by
  refine update_induct (P := s.drain.Anchors) ⟨h, .refl _⟩ ?_ ?_
  · exact fun _ h => h.trans h.anchored.applySwapInterval
  · exact fun _ _ _ h hn he => h.trans (h.anchored.ensure (h.site.inStep hi) hn he)

theorem beginFrame (h : s.drain.Anchored) (hi : s.drain.InStep) :
    s.drain.Anchors s.beginFrame.2 := by
  have hupdate := update h hi
  obtain ⟨-, hb⟩ | ⟨-, hb⟩ := s.beginFrame_cases
  all_goals rw [hb]
  · exact hupdate
  · have hr := hupdate.anchored.regular
    have hi' := hupdate.site.inStep hi
    have hidle := Canvas.idles_beginFrame hr
    have hbegun := hupdate.anchored.work hi'
      ((hupdate.anchored.moored_of_inStep hi').beginFrame hr) hidle.grows hidle.set
    exact hupdate.trans (hbegun.trans (hbegun.anchored.aside rfl rfl))

theorem endFrame (h : s.Anchored) (hi : s.InStep) : s.Anchors s.endFrame := by
  have hr := h.regular
  obtain ⟨new, hw⟩ := Canvas.works_endFrame hr s.size s.context
  have hended := h.work hi ((h.moored_of_inStep hi).endFrame hr s.size s.context) hw.grows hw.set
  exact hended.trans (hended.anchored.aside rfl rfl)

theorem sample {α : Type} (h : s.Anchored) (hi : s.InStep) (x y : Nat)
    {read : Device → Nat → Nat → α × Device}
    (hread : ∀ d row, ∃ call : Call, call.setsFramebuffer = false ∧ call.isQuiet = true ∧
      (read d x row).2 = d.perform call) :
    s.Anchors { s with canvas := (s.canvas.sample s.size x y read).2 } := by
  have hidle := Canvas.idles_sample h.regular s.size x y fun d row => by
    obtain ⟨call, -, hq, hd⟩ := hread d row
    exact ⟨call, hq, hd⟩
  refine h.work hi ((h.moored_of_inStep hi).sample s.size x y fun d row => ?_)
    hidle.grows hidle.set
  obtain ⟨call, hc, -, hd⟩ := hread d row
  exact ⟨call, hc, hd⟩

/-- After every operation but the sending of an event the surface is in step. -/
theorem operate (h : s.Anchored) {op : Operation} (hm : s.MayAsk op) :
    (s.operate op).Anchored ∧ ((∀ event, op ≠ .send event) → (s.operate op).InStep) := by
  -- all but reports stay on the site
  have stays {s₁ s' : Surface} (hi : s₁.InStep) (hs : s₁.Anchors s') :
      s'.Anchored ∧ ((∀ event, op ≠ .send event) → s'.InStep) :=
    ⟨hs.anchored, fun _ => hs.site.inStep hi⟩
  have hr := h.regular
  cases op with
  | openDrawable host =>
    obtain ⟨hcanvas, hcontext, -⟩ := s.openDrawable_eq host
    exact stays hm (h.aside hcontext hcanvas)
  | adoptContext context =>
    have hreport : s.MayReport context := by
      subst hm
      exact ⟨h.current_dated, fun _ => rfl⟩
    refine ⟨h.adoptContext hreport, fun _ => Or.inr ?_⟩
    show (s.adoptContext context).context = (s.adoptContext context).driver.context
    rw [driver_adoptContext]
    exact hm
  | resize size => exact stays hm (h.destroy size)
  | setFrameRate rate => exact stays hm (h.setFrameRate rate)
  | send event =>
    have hsent : s.Anchors (s.operate (.send event)) := h.aside rfl rfl
    exact ⟨hsent.anchored, fun hnot => absurd rfl (hnot event)⟩
  | update => exact stays hm.2 (update (h.drain hm.1) hm.2)
  | beginFrame => exact stays hm.2 (beginFrame (h.drain hm.1) hm.2)
  | endFrame => exact stays hm (h.endFrame hm)
  | fill color region =>
    obtain ⟨new, hw⟩ := Canvas.works_fill hr s.context s.size color region
    exact stays hm (h.work hm ((h.moored_of_inStep hm).fill hr s.context s.size color region)
      hw.grows hw.set)
  | drawTexture patch =>
    obtain ⟨new, hw⟩ := Canvas.works_drawTexture hr s.context s.size patch
    exact stays hm (h.work hm ((h.moored_of_inStep hm).drawTexture hr s.context s.size patch)
      hw.grows hw.set)
  | readback =>
    have hidle := Canvas.idles_readback hr
    exact stays hm (h.work hm ((h.moored_of_inStep hm).readback hr) hidle.grows hidle.set)
  | sampleColor x y =>
    exact stays hm (h.sample hm x y fun _ row => ⟨.readColor x row, rfl, rfl, rfl⟩)
  | sampleDepth x y =>
    exact stays hm (h.sample hm x y fun _ row => ⟨.readDepth x row, rfl, rfl, rfl⟩)
  | sampleStencil x y =>
    exact stays hm (h.sample hm x y fun _ row => ⟨.readStencil x row, rfl, rfl, rfl⟩)
  | tearDown host =>
    have hreleased := h.release
    exact stays hm (hreleased.trans (hreleased.anchored.aside rfl rfl))

/-! ## Incidents -/

/-- A new context has the display bound, and the surface has not been told of it. -/
theorem lose (h : s.Anchored) : (s.undergo .loseContext).Anchored where
  regular := Objects.regular_emptyAfter _
  current := rfl
  current_dated n hn := by
    cases hn
    exact Nat.le_refl _
  context_dated := h.context_dated.mono (Nat.le_succ _)
  set := h.set
  moored hc := absurd hc (ne_loseContext h.context_dated)
  behind _ := ⟨rfl, rfl⟩

theorem undergo (h : s.Anchored) {i : Incident} (ha : s.BindsNothing i) :
    (s.undergo i).Anchored := by
  have spared (hs : s.SameSite (s.undergo i)) (hlose : i ≠ .loseContext) :
      (s.undergo i).Anchored := by
    refine h.spare hs (Device.regular_undergo h.regular i) rfl
      (s.canvas.device.sparesFramebuffers_undergo ?_ hlose)
    rintro call rfl
    exact ha
  cases i with
  | call call => exact spared (.of_host rfl (s.canvas.device.sameHost_perform call)) nofun
  | attempt what => exact spared (.of_host rfl (s.canvas.device.sameHost_attempt what)) nofun
  | compile id source =>
    exact spared (.of_host rfl (s.canvas.device.sameHost_compile id source)) nofun
  | setFaults faults => exact spared ⟨rfl, rfl, Nat.le_refl _⟩ nofun
  | pretend pretence => exact spared ⟨rfl, rfl, Nat.le_refl _⟩ nofun
  | freshContext => exact spared ⟨rfl, rfl, Nat.le_succ _⟩ nofun
  | loseContext => exact h.lose

end Anchored

/-! ## Courses -/

theorem Course.anchored {s₀ : Surface} (h : Course MayAsk BindsNothing s₀ s)
    (hs : s₀.Anchored) : s.Anchored := by
  induction h with
  | start => exact hs
  | operate _ hm ih => exact (ih.operate hm).1
  | undergo _ ha ih => exact ih.undergo ha

/-- What the driver reads from and draws to is what counts as the screen, and if that is a
framebuffer, it is a live one. -/
structure ScreenIsBound (s : Surface) : Prop where
  read : s.driver.bindings.read = s.canvas.backing.screen?
  draw : s.driver.bindings.draw = s.canvas.backing.screen?
  live : ∀ id, s.canvas.backing.screen? = some id → s.canvas.device.Live id.handle

theorem Anchored.screenIsBound (h : s.Anchored) (hi : s.InStep) : s.ScreenIsBound := by
  have hm := h.moored_of_inStep hi
  exact ⟨hm.bound.read, hm.bound.draw, fun _ hid => hm.live_screen hid⟩

/-- On a course of a new surface in which the application leaves framebuffers alone and every new
context is reported in time, the screen is bound after every operation, whatever it came to. It
stays bound until the context is lost, and then until the report. -/
theorem screenIsBound_of_course {profile : Profile} {settings : Settings} {policy : Policy}
    (h : Course MayAsk BindsNothing (withPolicy profile settings policy) s) :
    (s.InStep → s.ScreenIsBound) ∧
      ∀ op, s.MayAsk op → (∀ event, op ≠ .send event) → (s.operate op).ScreenIsBound := by
  have ha := h.anchored (anchored_start profile settings policy)
  refine ⟨ha.screenIsBound, fun op hm hnot => ?_⟩
  obtain ⟨hafter, hstep⟩ := ha.operate hm
  exact hafter.screenIsBound (hstep hnot)

/-- The context is lost in a frame, and the next frame starts with the report. In between the
framebuffer that counts as the screen is one of the lost context. -/
theorem screenIsBound_after_loss :
    let s := ((withPolicy .full .standard .always).operate (.adoptContext (.live 1))).operate
      (.resize ⟨4, 4⟩)
    let t := ((s.operate .beginFrame).undergo .loseContext).operate
      (.send (.adoptContext (.live 2)))
    (s.operate .beginFrame).canvas.backing.screen? = some ⟨3⟩ ∧
      t.driver.bindings.read = none ∧ t.canvas.backing.screen? = some ⟨3⟩ ∧
      (t.operate .beginFrame).canvas.backing.screen? = some ⟨8⟩ ∧
      (t.operate .beginFrame).ScreenIsBound := by
  intro s t
  have hs : Course MayAsk BindsNothing (withPolicy .full .standard .always) s :=
    @Course.operate _ _ _ _ (.resize ⟨4, 4⟩)
      (@Course.operate _ _ _ _ (.adoptContext (.live 1)) .start rfl) (Or.inr rfl)
  have ht : Course MayAsk BindsNothing (withPolicy .full .standard .always) t :=
    @Course.operate _ _ _ _ (.send (.adoptContext (.live 2)))
      (@Course.undergo _ _ _ _ .loseContext
        (@Course.operate _ _ _ _ .beginFrame hs ⟨trivial, Or.inr rfl⟩) trivial) trivial
  have hruns : (s.operate .beginFrame).canvas.backing.screen? = some ⟨3⟩ ∧
      t.pending = [.adoptContext (.live 2)] ∧ t.driver.context = .live 2 ∧
      2 ≤ t.driver.contexts ∧ t.drain.context = t.drain.driver.context ∧
      t.canvas.backing.screen? = some ⟨3⟩ ∧
      (t.operate .beginFrame).canvas.backing.screen? = some ⟨8⟩ := by
    decide +kernel
  obtain ⟨hfirst, hpending, hcurrent, hcontexts, hdrained, hstale, hnext⟩ := hruns
  have hreport : t.MayAsk .beginFrame := by
    refine ⟨?_, Or.inr hdrained⟩
    rw [hpending]
    refine ⟨⟨?_, fun _ => hcurrent.symm⟩, trivial⟩
    rintro n ⟨⟩
    exact hcontexts
  exact ⟨hfirst, rfl, hstale, hnext, (screenIsBound_of_course ht).2 .beginFrame hreport nofun⟩

end Surface

end Compositor
