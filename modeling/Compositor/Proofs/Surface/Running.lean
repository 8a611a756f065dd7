import Compositor.Proofs.Buffer.Ensuring
import Compositor.Proofs.Buffer.Layout
import Compositor.Proofs.Canvas.Working
import Compositor.Proofs.Device.Incident
import Compositor.Surface.Basic
import Mathlib.Logic.Relation

/-!
# Runs of a surface

What can happen to a surface: its operations, and incidents at the driver below it. In a run the
surface is told of every new context before anything else is asked of it, and nothing is drawn
before the first report.

Every operation is a chain of a few kinds of moves. What a move keeps, a run keeps.
-/

namespace Compositor

open Numeric Relation

namespace Surface

/-! ## Operations -/

/-- What can be asked of a surface. -/
inductive Operation where
  | openDrawable (host : Host)
  | adoptContext (context : Context)
  | resize (size : Size)
  | setFrameRate (rate : Single)
  | send (event : Event)
  | update
  | beginFrame
  | endFrame
  | fill (color : Rgba) (region : Rect)
  | drawTexture (patch : TexturePatch)
  | readback
  | sampleColor (x y : Nat)
  | sampleDepth (x y : Nat)
  | sampleStencil (x y : Nat)
  | tearDown (host : Host)

/-- The surface after an operation. -/
def operate (s : Surface) : Operation → Surface
  | .openDrawable host => (s.openDrawable host).2.1
  | .adoptContext context => s.adoptContext context
  | .resize size => s.resize size
  | .setFrameRate rate => (s.setFrameRate rate).2
  | .send event => (Surface.send (some s) event).2.getD s
  | .update => s.update.2
  | .beginFrame => s.beginFrame.2
  | .endFrame => s.endFrame
  | .fill color region => (s.fill color region).2
  | .drawTexture patch => (s.drawTexture patch).2
  | .readback => s.readback.2
  | .sampleColor x y => (s.sampleColor x y).2
  | .sampleDepth x y => (s.sampleDepth x y).2
  | .sampleStencil x y => (s.sampleStencil x y).2
  | .tearDown host => (s.tearDown host).1

/-- Whether the surface is to have a set after an update. -/
def needsSet (s : Surface) : Bool := s.drawsOffscreen && s.context.isLive && !s.size.isEmpty

/-- What noting a frame rate and telling the driver the swap interval keep holds after a frame rate
was set. -/
theorem setFrameRate_induct {P : Surface → Prop} {s : Surface} {rate : Single} (h : P s)
    (hnote : ∀ outdated due, P
      { s with drawableOutdated := outdated, frameRate := rate, swapIntervalDue := due })
    (hswap : ∀ s₁, P s₁ → P s₁.applySwapInterval) : P (s.setFrameRate rate).2 := by
  unfold setFrameRate
  split
  · dsimp only
    split
    · exact hswap _ (hnote _ _)
    · exact hnote _ _
  · exact h

/-- The driver is told the swap interval if that is due. -/
def settle (s : Surface) : Surface :=
  if s.swapIntervalDue && s.context.isLive then s.applySwapInterval else s

/-- The surface with its set discarded. -/
def discarded (s : Surface) : Surface :=
  { s with canvas := { s.canvas with
    backing := (s.canvas.backing.discard s.context s.canvas.device).1
    device := (s.canvas.backing.discard s.context s.canvas.device).2 } }

/-! ### What single steps do -/

/-- Whatever the host says, a drawable that is opened concerns no canvas. -/
theorem openDrawable_eq (s : Surface) (host : Host) :
    (s.openDrawable host).2.1.canvas = s.canvas ∧
      (s.openDrawable host).2.1.context = s.context ∧
      (s.openDrawable host).2.1.size = s.size := by
  unfold openDrawable
  dsimp only
  split <;> exact ⟨rfl, rfl, rfl⟩

/-- A report keeps the canvas if it names the context that was current already, and else it has the
set forgotten. -/
theorem canvas_adoptContext (s : Surface) (context : Context) :
    (s.context.coincides context = true ∧ (s.adoptContext context).canvas = s.canvas) ∨
      (s.context.coincides context = false ∧
        (s.adoptContext context).canvas = s.canvas.invalidate) := by
  cases hc : s.context.coincides context with
  | true => exact Or.inl ⟨rfl, by simp only [adoptContext, hc, if_true]⟩
  | false =>
    exact Or.inr ⟨rfl, by simp only [adoptContext, hc, Bool.false_eq_true, if_false]⟩

theorem device_adoptContext (s : Surface) (context : Context) :
    (s.adoptContext context).canvas.device = s.canvas.device := by
  obtain ⟨-, hc⟩ | ⟨-, hc⟩ := s.canvas_adoptContext context
  · rw [hc]
  · rw [hc]
    rfl

theorem programs_adoptContext (s : Surface) (context : Context) :
    (s.adoptContext context).canvas.programs = s.canvas.programs := by
  obtain ⟨-, hc⟩ | ⟨-, hc⟩ := s.canvas_adoptContext context
  · rw [hc]
  · rw [hc]
    rfl

theorem driver_adoptContext (s : Surface) (context : Context) :
    (s.adoptContext context).driver = s.driver :=
  congrArg Device.driver (s.device_adoptContext context)

/-- Telling the driver the swap interval makes nothing and deletes nothing. -/
theorem idles_applySwapInterval (s : Surface) (hr : s.driver.objects.Regular) :
    s.canvas.Idles s.applySwapInterval.canvas :=
  (Canvas.Idles.refl s.canvas).performAll hr (by simp [Call.isQuiet])

section Updating

variable {s s' : Surface} {outcome : Except Failure Unit}

theorem settle_cases (s : Surface) : s.settle = s ∨ s.settle = s.applySwapInterval := by
  unfold settle
  split
  · exact Or.inr rfl
  · exact Or.inl rfl

@[simp]
theorem needsSet_settle (s : Surface) : s.settle.needsSet = s.needsSet := by
  rcases s.settle_cases with h | h
  · rw [h]
  · rw [h]
    rfl

theorem update_eq (s : Surface) :
    s.update =
      if s.drain.settle.needsSet then
        s.drain.settle.onCanvas
          (s.drain.settle.canvas.ensure s.drain.settle.order s.drain.settle.capabilities)
      else (.ok (), s.drain.settle) := rfl

/-- Once the events are applied and the interval was told, an update ensures a set if one is
needed. -/
theorem update_cases (s : Surface) :
    (s.drain.settle.needsSet = false ∧ s.update = (.ok (), s.drain.settle)) ∨
      (s.drain.settle.needsSet = true ∧
        s.update = s.drain.settle.onCanvas
          (s.drain.settle.canvas.ensure s.drain.settle.order s.drain.settle.capabilities)) := by
  rw [update_eq]
  cases hn : s.drain.settle.needsSet with
  | true => exact Or.inr ⟨rfl, if_pos rfl⟩
  | false => exact Or.inl ⟨rfl, if_neg Bool.false_ne_true⟩

/-- Only the set and the device change where a set is ensured. -/
theorem onCanvas_ensure {order : Order} {capabilities : Capabilities}
    (he : s.onCanvas (s.canvas.ensure order capabilities) = (outcome, s')) :
    ∃ b e, s.canvas.backing.ensure order capabilities s.canvas.device = (outcome, b, e) ∧
      s' = { s with canvas := { s.canvas with backing := b, device := e } } := by
  rcases hb : s.canvas.backing.ensure order capabilities s.canvas.device with ⟨result, b, e⟩
  rw [onCanvas, Canvas.ensure, hb] at he
  cases he
  exact ⟨b, e, rfl, rfl⟩

/-- What every event keeps, along with the events that are left, holds when all of them are
applied. -/
theorem drain_induct {P : List Event → Surface → Prop} (hstart : P s.pending s)
    (hevent : ∀ e events s₁, P (e :: events) s₁ → P events (s₁.apply e))
    (hclear : ∀ s₁, P [] s₁ → P [] { s₁ with pending := [] }) : P [] s.drain := by
  have hevents : ∀ events s₁, P events s₁ → P [] (events.foldl apply s₁) := by
    intro events
    induction events with
    | nil => exact fun s₁ h => h
    | cons e events ih => exact fun s₁ h => ih (s₁.apply e) (hevent e events s₁ h)
  exact hclear _ (hevents s.pending s hstart)

/-- What the swap interval and ensuring a set keep holds after an update if it does once the
events are applied. -/
theorem update_induct {P : Surface → Prop} (hdrain : P s.drain)
    (hswap : ∀ s₁, P s₁ → P s₁.applySwapInterval)
    (hensure : ∀ s₁ s₂ outcome, P s₁ → s₁.needsSet = true →
      s₁.onCanvas (s₁.canvas.ensure s₁.order s₁.capabilities) = (outcome, s₂) → P s₂) :
    P s.update.2 := by
  have hsettled : P s.drain.settle := by
    rcases s.drain.settle_cases with h | h
    · rwa [h]
    · rw [h]
      exact hswap _ hdrain
  rcases s.update_cases with ⟨-, hu⟩ | ⟨hn, hu⟩
  · rwa [hu]
  · exact hensure _ _ _ hsettled hn hu.symm

end Updating

/-- The surface with a frame begun on its canvas. -/
def begun (s : Surface) : Surface := { s with canvas := s.canvas.beginFrame, inFrame := true }

/-- A frame is begun where the update succeeds, and else nothing is done beyond the update. -/
theorem beginFrame_cases (s : Surface) :
    (s.update.1 ≠ .ok () ∧ s.beginFrame = s.update) ∨
      (s.update.1 = .ok () ∧ s.beginFrame = (.ok (), s.update.2.begun)) := by
  unfold beginFrame
  rcases s.update with ⟨failure | _, s'⟩
  · exact Or.inl ⟨nofun, rfl⟩
  · exact Or.inr ⟨rfl, rfl⟩

/-- The surface after an incident. -/
def undergo (s : Surface) (i : Incident) : Surface :=
  { s with canvas := { s.canvas with device := s.canvas.device.undergo i } }

/-- The context reported last is the current one, if any was reported. -/
def InStep (s : Surface) : Prop := s.context = .uninitialized ∨ s.context = s.driver.context

/-- An event may be applied: it reports the current context, or the surface is in step. -/
def MayApply (s : Surface) : Event → Prop
  | .adoptContext context => context = s.driver.context
  | _ => s.InStep

/-- Events may be applied one after the other. -/
def MayApplyAll : Surface → List Event → Prop
  | _, [] => True
  | s, e :: events => s.MayApply e ∧ (s.apply e).MayApplyAll events

/-- An operation may be asked of the surface: a report names the current context, and else the
surface is in step. Waiting events count as operations when they are applied. -/
def May (s : Surface) : Operation → Prop
  | .send _ => True
  | .adoptContext context => context = s.driver.context
  | .update | .beginFrame => s.MayApplyAll s.pending ∧ s.drain.InStep
  | .fill .. | .drawTexture _ => s.InStep ∧ s.context.isLive = true
  | _ => s.InStep

/-- The surfaces that come about from a new one by operations and by such incidents as `app`
allows. -/
inductive Run (app : Surface → Incident → Prop) : Surface → Prop where
  | start (profile : Profile) (settings : Settings) (policy : Policy) :
    Run app (withPolicy profile settings policy)
  | operate {s : Surface} {op : Operation} : Run app s → s.May op → Run app (s.operate op)
  | undergo {s : Surface} {i : Incident} : Run app s → app s i → Run app (s.undergo i)

/-- The surfaces that come about from `s₀` by such operations as `may` allows and such incidents as
`app` allows. -/
inductive Course (may : Surface → Operation → Prop) (app : Surface → Incident → Prop)
    (s₀ : Surface) : Surface → Prop where
  | start : Course may app s₀ s₀
  | operate {s : Surface} {op : Operation} : Course may app s₀ s → may s op →
    Course may app s₀ (s.operate op)
  | undergo {s : Surface} {i : Incident} : Course may app s₀ s → app s i →
    Course may app s₀ (s.undergo i)

theorem Run.mono {app app' : Surface → Incident → Prop} {s : Surface} (h : Run app s)
    (hle : ∀ s i, app s i → app' s i) : Run app' s := by
  induction h with
  | start profile settings policy => exact .start profile settings policy
  | operate _ hm ih => exact ih.operate hm
  | undergo _ ha ih => exact ih.undergo (hle _ _ ha)

/-- A run may start with a report of the first context and a size. -/
theorem Run.reported (app : Surface → Incident → Prop) (profile : Profile) (settings : Settings)
    (policy : Policy) (size : Size) :
    Run app (((withPolicy profile settings policy).operate (.adoptContext (.live 1))).operate
      (.resize size)) := by
  have hadopted : Run app ((withPolicy profile settings policy).operate
    (.adoptContext (.live 1))) := .operate (.start _ _ _) rfl
  exact hadopted.operate (Or.inr rfl)

/-- Frames are made of operations. -/
theorem Run.frame {app : Surface → Incident → Prop} {s : Surface} (h : Run app s)
    (hm : s.May .beginFrame) {α : Type} {draw : Surface → α × Surface}
    (hd : ∀ s', Run app s' → Run app (draw s').2 ∧ (draw s').2.InStep) :
    Run app (s.frame draw).2 := by
  have hb : Run app s.beginFrame.2 := h.operate hm
  unfold Surface.frame
  rcases he : s.beginFrame with ⟨failure | _, s'⟩
  · rwa [he] at hb
  · rw [he] at hb
    obtain ⟨hdraw, hstep⟩ := hd s' hb
    have hend : Run app ((draw s').2.operate .endFrame) := hdraw.operate hstep
    exact hend

/-! ## Moves -/

/-- The kinds of steps that operations consist of. -/
inductive Moves (s s' : Surface) : Prop where
  /-- Nothing is made or deleted. -/
  | idles : s'.context = s.context → s'.size = s.size → s.canvas.Idles s'.canvas → Moves s s'
  /-- Something is drawn, for which a program may be built. -/
  | draws {new : List Handle} : s.context = s.driver.context → s'.context = s.context →
    s'.size = s.size → s.canvas.Works s.context s'.canvas new → Moves s s'
  /-- The current context is reported. A set of another context is forgotten. -/
  | adopts : s'.context = s.driver.context → s'.size = s.size →
    s'.canvas.device = s.canvas.device → s'.canvas.programs = s.canvas.programs →
    s'.canvas.backing.set? =
      (if s.context = s.driver.context then s.canvas.backing.set? else none) → Moves s s'
  /-- The set is deleted. -/
  | destroys : s.InStep → s'.context = s.context → s'.canvas.programs = s.canvas.programs →
    s'.canvas.backing.set? = none →
    (s'.canvas.device = match s.canvas.backing.set? with
      | none => s.canvas.device
      | some set => set.delete s.canvas.device) → Moves s s'
  /-- The programs are deleted. -/
  | releases : s.InStep → s'.context = s.context → s'.size = s.size →
    s'.canvas = s.canvas.releasePrograms s.context → Moves s s'
  /-- A set is made where there was none. -/
  | fills {set : BufferSet} {layout : Layout} : s.context = s.driver.context →
    s'.context = s.context → s'.size = s.size → s'.canvas.programs = s.canvas.programs →
    s.canvas.backing.set? = none → s'.canvas.backing.set? = some set →
    set.Made s.order layout s.canvas.device s'.canvas.device →
    layout.size.isEmpty = false → s.size.isEmpty = false → Moves s s'

/-- What is known of the contexts that the surface notes. -/
structure Tracks (s : Surface) : Prop where
  regular : s.driver.objects.Regular
  current : s.driver.context.isLive = true
  current_dated : s.driver.context.IsDated s.driver.contexts
  context_dated : s.context.IsDated s.driver.contexts
  /-- A set belongs to the context reported last. -/
  set : ∀ set, s.canvas.backing.set? = some set →
    set.order.owner = s.context ∧ s.context.isLive = true
  programs : s.canvas.programs.IsLive
  programs_dated : ∀ purpose entry, s.canvas.programs.cached? purpose = some entry →
    entry.owner.IsDated s.driver.contexts
  /-- Before the first report there are no programs. -/
  unreported : s.context = .uninitialized → ∀ purpose, s.canvas.programs.cached? purpose = none

variable {s s' : Surface}

theorem tracks_start (profile : Profile) (settings : Settings) (policy : Policy) :
    (withPolicy profile settings policy).Tracks where
  regular := Objects.regular_emptyAfter 0
  current := rfl
  current_dated n hn := by
    cases hn
    exact Nat.le_refl 1
  context_dated := nofun
  set := nofun
  programs := nofun
  programs_dated := nofun
  unreported _ _ := rfl

/-- A surface that is in step and had a report knows the current context. -/
theorem InStep.context_eq (h : s.InStep) (hl : s.context.isLive = true) :
    s.context = s.driver.context := by
  rcases h with h | h
  · rw [h] at hl
    cases hl
  · exact h

/-- A move makes objects or deletes objects of the driver, and never both. -/
theorem Moves.grows_or_drops (h : s.Moves s') :
    (∃ new, s.canvas.device.Grows s'.canvas.device new) ∨
      ∃ gone, s.canvas.device.Drops s'.canvas.device gone := by
  cases h with
  | idles hc hs hi => exact Or.inl ⟨_, hi.grows⟩
  | draws hd hc hs hw => exact Or.inl ⟨_, hw.grows⟩
  | adopts hc hs hd hp hb =>
    rw [hd]
    exact Or.inl ⟨[], .refl _⟩
  | destroys hi hc hp hb hd =>
    rw [hd.trans (s.canvas.backing.device_destroy s.canvas.device).symm]
    exact Or.inr ⟨_, (s.canvas.backing.drops_destroy s.canvas.device).1⟩
  | releases hi hc hs hd =>
    rw [hd]
    exact Or.inr ⟨_, s.canvas.drops_releasePrograms s.context⟩
  | fills hd hc hs hp hn hb hm => exact Or.inl ⟨_, hm.grows⟩

/-- A move leaves the host of the driver alone. -/
theorem Moves.host (h : s.Moves s') : s.canvas.device.SameHost s'.canvas.device := by
  obtain ⟨_, hgrows⟩ | ⟨_, hdrops⟩ := h.grows_or_drops
  · exact hgrows.host
  · exact hdrops.host

theorem Moves.edits (h : s.Moves s') : s.driver.objects.Edits s'.driver.objects := by
  obtain ⟨_, hgrows⟩ | ⟨_, hdrops⟩ := h.grows_or_drops
  · exact hgrows.edits
  · exact hdrops.edits

/-- With the host as it was, what matters is the report, the set and the entries. -/
theorem Tracks.keep (h : s.Tracks) (hregular : s'.driver.objects.Regular)
    (hhost : s.canvas.device.SameHost s'.canvas.device)
    (hrest : s'.context.IsDated s.driver.contexts ∧
      (∀ set, s'.canvas.backing.set? = some set →
        set.order.owner = s'.context ∧ s'.context.isLive = true) ∧
      s'.canvas.programs.IsLive ∧
      (∀ purpose entry, s'.canvas.programs.cached? purpose = some entry →
        entry.owner.IsDated s.driver.contexts) ∧
      (s'.context = .uninitialized → ∀ purpose, s'.canvas.programs.cached? purpose = none)) :
    s'.Tracks := by
  have hcontext : s'.driver.context = s.driver.context := hhost.context
  have hcontexts : s'.driver.contexts = s.driver.contexts := hhost.contexts
  have hcurrent : s'.driver.context.isLive = true := by
    rw [hcontext]
    exact h.current
  have hdated : s'.driver.context.IsDated s'.driver.contexts := by
    rw [hcontext, hcontexts]
    exact h.current_dated
  obtain ⟨hc, hset, hprograms, hprogramsDated, hnone⟩ := hrest
  exact ⟨hregular, hcurrent, hdated, hcontexts ▸ hc, hset, hprograms,
    hcontexts ▸ hprogramsDated, hnone⟩

/-- The contexts that are noted stay those that were handed out. -/
theorem Tracks.move (h : s.Tracks) (hm : s.Moves s') : s'.Tracks := by
  refine h.keep (hm.edits.regular h.regular) hm.host ?_
  have hlive := h.programs
  have hentries := h.programs_dated
  have hunreported := h.unreported
  have hset := h.set
  cases hm with
  | idles hc hs hi =>
    rw [hc, hi.set]
    rw [ProgramCache.IsLive, hi.entries]
    exact ⟨h.context_dated, hset, hlive, hentries, hunreported⟩
  | draws hd hc hs hw =>
    have hcl : s.context.isLive = true := by
      rw [hd]
      exact h.current
    rw [hc, hw.set]
    refine ⟨h.context_dated, hset, hw.gains.isLive hlive hcl, fun purpose entry he => ?_, ?_⟩
    · rcases hw.gains.cached?_eq he with hold | ⟨hnew, -⟩
      · exact hentries purpose entry hold
      · rw [hnew]
        exact h.context_dated
    · intro hu
      rw [hu] at hcl
      cases hcl
  | adopts hc hs hd hp hb =>
    rw [hc, hp]
    refine ⟨h.current_dated, fun set he => ?_, hlive, hentries, fun hu => ?_⟩
    · rw [hb] at he
      split at he
      · rename_i heq
        rw [← heq]
        exact hset set he
      · cases he
    · have := h.current
      rw [hu] at this
      cases this
  | destroys hi hc hp hb hd =>
    rw [hc, hp, hb]
    exact ⟨h.context_dated, nofun, hlive, hentries, hunreported⟩
  | releases hi hc hs hd =>
    rw [hc, hd]
    exact ⟨h.context_dated, hset, nofun, nofun, fun _ _ => rfl⟩
  | fills hd hc hs hp hn hb hm =>
    rw [hc, hp, hb]
    refine ⟨h.context_dated, fun set he => ?_, hlive, hentries, hunreported⟩
    cases he
    rw [hm.order, hd]
    exact ⟨hd, h.current⟩

theorem Tracks.moves (h : s.Tracks) (hm : ReflTransGen Moves s s') : s'.Tracks := by
  induction hm with
  | refl => exact h
  | tail _ hstep ih => exact ih.move hstep

theorem ne_loseContext {c : Context} (hc : c.IsDated s.driver.contexts) :
    c ≠ (s.undergo .loseContext).driver.context :=
  Device.ne_loseContext hc

/-- Incidents keep this up: only a loss makes another context the current one. -/
theorem Tracks.undergo (h : s.Tracks) (i : Incident) : (s.undergo i).Tracks := by
  have hr : (s.undergo i).driver.objects.Regular := Device.regular_undergo h.regular i
  cases hl : i.isLoss with
  | false =>
    -- the identities stay, but for new ones that are handed out
    obtain ⟨-, hcontext, hn⟩ := s.canvas.device.undergo_of_not_isLoss hl
    have hc : (s.undergo i).driver.context = s.driver.context := hcontext
    exact ⟨hr, by rw [hc]; exact h.current, by rw [hc]; exact h.current_dated.mono hn,
      h.context_dated.mono hn, h.set, h.programs,
      fun purpose entry he => (h.programs_dated purpose entry he).mono hn, h.unreported⟩
  | true =>
    obtain rfl := Incident.eq_loseContext hl
    have hn : s.driver.contexts ≤ s.driver.contexts + 1 := Nat.le_succ _
    refine ⟨hr, rfl, fun n he => ?_, h.context_dated.mono hn, h.set, h.programs,
      fun purpose entry he => (h.programs_dated purpose entry he).mono hn, h.unreported⟩
    cases he
    exact Nat.le_refl _

end Surface

end Compositor
