import Compositor.Proofs.Buffer.Forecast
import Compositor.Proofs.Surface.Retaining

/-!
# Events that wait in another order

Events of different kinds that wait for the same update may be interleaved in any way: a report of a
context, a size, a frame rate and a teardown change different things, or, where they change the same
thing, leave the same. Both a report and a size give the set up, and a report as well as a frame
rate has the driver told the swap interval that suits the frame rate.

The surfaces that two orders lead to differ nonetheless. One may have deleted the set that the other
has only forgotten, or have told the driver an interval that the other is yet to tell. So they are
compared on their outlook, which has the interval that the driver is going to be told. What an
update does follows from the outlook.
-/

namespace Compositor

open Numeric

/-! ## Queues -/

/-- What an event is about. -/
inductive Event.Kind where
  | context
  | size
  | frameRate
  | teardown
deriving DecidableEq, Repr

def Event.kind : Event → Event.Kind
  | .adoptContext _ => .context
  | .resized _ => .size
  | .frameRate _ => .frameRate
  | .teardown => .teardown

/-- The queues hold the same events of every kind in the same order, interleaved in some way. -/
def Event.Interleaves (q q' : List Event) : Prop :=
  ∀ kind : Event.Kind, q.filter (·.kind = kind) = q'.filter (·.kind = kind)

section

variable {σ α κ : Type} {step : σ → α → σ} {kind : α → κ}

/-- An element may go before others that are of another kind. -/
theorem foldl_of_forall_kind_ne
    (hcomm : ∀ s a b, kind a ≠ kind b → step (step s a) b = step (step s b) a) {x : α}
    {others : List α} (h : ∀ y ∈ others, kind y ≠ kind x) (s : σ) :
    step (others.foldl step s) x = others.foldl step (step s x) := by
  induction others generalizing s with
  | nil => rfl
  | cons y others ih =>
    rw [List.foldl_cons, ih fun z hz => h z (List.mem_cons_of_mem _ hz), List.foldl_cons,
      hcomm s y x (h y List.mem_cons_self)]

variable [DecidableEq κ]

/-- The first element stands in the other list behind elements of other kinds only. -/
theorem exists_append_of_filter_eq {x : α} {xs ys : List α}
    (h : ∀ k, (x :: xs).filter (kind · = k) = ys.filter (kind · = k)) :
    ∃ before after, ys = before ++ x :: after ∧ (∀ y ∈ before, kind y ≠ kind x) ∧
      ∀ k, xs.filter (kind · = k) = (before ++ after).filter (kind · = k) := by
  have hx := h (kind x)
  rw [List.filter_cons_of_pos (by simp)] at hx
  obtain ⟨before, after, rfl, hbefore, -, hafter⟩ := List.filter_eq_cons_iff.mp hx.symm
  have hne : ∀ y ∈ before, kind y ≠ kind x := fun y hy he => hbefore y hy (by simp [he])
  refine ⟨before, after, rfl, hne, fun k => ?_⟩
  have hk := h k
  rw [List.filter_append] at hk ⊢
  by_cases he : kind x = k
  · subst he
    have hnone : before.filter (kind · = kind x) = [] :=
      List.filter_eq_nil_iff.mpr fun y hy => by simpa using hne y hy
    rw [List.filter_cons_of_pos (by simp), hnone, List.filter_cons_of_pos (by simp)] at hk
    rw [hnone]
    exact (List.cons.inj hk).2
  · rwa [List.filter_cons_of_neg (by simpa using he),
      List.filter_cons_of_neg (by simpa using he)] at hk

/-- Where steps of different kinds commute, lists with the same elements of every kind lead to the
same state. -/
theorem foldl_eq_of_filter_eq
    (hcomm : ∀ s a b, kind a ≠ kind b → step (step s a) b = step (step s b) a) {xs ys : List α}
    (h : ∀ k, xs.filter (kind · = k) = ys.filter (kind · = k)) (s : σ) :
    xs.foldl step s = ys.foldl step s := by
  induction xs generalizing ys s with
  | nil =>
    cases ys with
    | nil => rfl
    | cons y ys =>
      have hy := h (kind y)
      rw [List.filter_cons_of_pos (by simp)] at hy
      cases hy
  | cons x xs ih =>
    obtain ⟨before, after, rfl, hne, hrest⟩ := exists_append_of_filter_eq h
    rw [List.foldl_cons, ih hrest, List.foldl_append, List.foldl_append, List.foldl_cons,
      foldl_of_forall_kind_ne hcomm hne]

end

/-! ## The outlook -/

/-- What an update depends on once the context is live. -/
structure Outlook where
  settings : Settings
  drawsOffscreen : Bool
  prospects : Prospects
  context : Context
  capabilities : Capabilities
  size : Size
  frameRate : Single
  drawableOutdated : Bool
  /-- The swap interval that the driver was told last, or is going to be told. -/
  swapInterval : Nat
  set? : Option BufferSet

/-- The outlook after an event. -/
def Outlook.apply (o : Outlook) : Event → Outlook
  | .adoptContext context =>
    { o with
      set? := o.set?.filter fun _ => o.context.coincides context
      context := context
      capabilities := o.prospects.profile.capabilities
      swapInterval := FrameRate.swapInterval o.frameRate }
  | .resized size => { o with set? := none, size := size }
  | .frameRate rate =>
    if FrameRate.isValid rate then
      { o with
        drawableOutdated := o.drawableOutdated || FrameRate.changesDrawable o.frameRate rate
        frameRate := rate
        swapInterval := FrameRate.swapInterval rate }
    else o
  | .teardown => { o with set? := none }

namespace Outlook

theorem frameRate_comm (o : Outlook) (rate : Single) {e : Event} (h : e.kind ≠ .frameRate) :
    (o.apply (.frameRate rate)).apply e = (o.apply e).apply (.frameRate rate) := by
  cases hv : FrameRate.isValid rate with
  | true =>
    cases e with
    | frameRate rate' => exact absurd rfl h
    | _ => simp only [apply, hv, if_true]
  | false =>
    have hskip (o : Outlook) : o.apply (.frameRate rate) = o := by
      simp only [apply, hv, Bool.false_eq_true, if_false]
    rw [hskip, hskip]

/-- Whatever becomes of the set with the report, it is given up. -/
theorem adoptContext_comm (o : Outlook) (context : Context) {e : Event} (h : e.kind ≠ .context) :
    (o.apply (.adoptContext context)).apply e = (o.apply e).apply (.adoptContext context) := by
  cases e with
  | adoptContext context' => exact absurd rfl h
  | resized size => rfl
  | frameRate rate => exact (o.frameRate_comm rate (e := .adoptContext context) nofun).symm
  | teardown => rfl

/-- Events of different kinds commute. -/
theorem apply_comm (o : Outlook) (e e' : Event) (h : e.kind ≠ e'.kind) :
    (o.apply e).apply e' = (o.apply e').apply e := by
  cases e with
  | adoptContext context => exact o.adoptContext_comm context h.symm
  | frameRate rate => exact o.frameRate_comm rate h.symm
  | resized size =>
    cases e' with
    | adoptContext context => exact (o.adoptContext_comm context h).symm
    | resized size' => exact absurd rfl h
    | frameRate rate => exact (o.frameRate_comm rate h).symm
    | teardown => rfl
  | teardown =>
    cases e' with
    | adoptContext context => exact (o.adoptContext_comm context h).symm
    | resized size => rfl
    | frameRate rate => exact (o.frameRate_comm rate h).symm
    | teardown => exact absurd rfl h

end Outlook

/-- What can be told of a surface after an update. -/
structure Standing where
  size : Size
  context : Context
  capabilities : Capabilities
  frameRate : Single
  drawableOutdated : Bool
  /-- The swap interval of the driver. -/
  swapInterval : Nat
  /-- What the set was ordered as and how it is laid out, if there is one. -/
  design? : Option (Order × Layout)
deriving DecidableEq

/-- What an update comes to in a live context. -/
def Outlook.update (o : Outlook) : Except Failure Unit × Standing :=
  let forecast :=
    if o.drawsOffscreen && !o.size.isEmpty then
      Backing.forecast o.set? o.prospects
        (.ofQuality o.size o.settings.antialias.toNat o.context) o.capabilities
    else (.ok (), o.set?.map (·.design))
  (forecast.1,
    ⟨o.size, o.context, o.capabilities, o.frameRate, o.drawableOutdated, o.swapInterval,
      forecast.2⟩)

namespace Surface

variable {s s' : Surface}

def outlook (s : Surface) : Outlook where
  settings := s.settings
  drawsOffscreen := s.drawsOffscreen
  prospects := s.canvas.device.prospects
  context := s.context
  capabilities := s.capabilities
  size := s.size
  frameRate := s.frameRate
  drawableOutdated := s.drawableOutdated
  swapInterval :=
    if s.swapIntervalDue then FrameRate.swapInterval s.frameRate
    else s.driver.pipeline.swapInterval
  set? := s.canvas.backing.set?

/-- The outlook has as much of the canvas as the prospects, the swap interval and the set. -/
theorem outlook_congr {c : Canvas} (hp : c.device.prospects = s.canvas.device.prospects)
    (hi : c.device.driver.pipeline.swapInterval = s.driver.pipeline.swapInterval) :
    outlook { s with canvas := c } = { s.outlook with set? := c.backing.set? } := by
  simp only [outlook, driver, hp, hi]

theorem outlook_destroy (s : Surface) :
    outlook { s with canvas := s.canvas.destroy } = { s.outlook with set? := none } := by
  have hinterval := congrArg Pipeline.swapInterval
    (s.canvas.backing.drops_destroy s.canvas.device).2.pipeline
  rw [outlook_congr (s.canvas.backing.prospects_destroy s.canvas.device) hinterval,
    show s.canvas.destroy.backing.set? = none from Backing.set?_destroy _ _]

theorem outlook_releasePrograms (s : Surface) :
    outlook { s with canvas := s.canvas.releasePrograms s.context } = s.outlook := by
  refine outlook_congr ?_ ?_
  all_goals rw [s.canvas.device_releasePrograms]
  · exact Device.prospects_performAll _ _
  · exact congrArg Pipeline.swapInterval (Device.pipeline_performAll _ fun _ hc =>
      (ProgramCache.sets_deletions hc).2)

/-- Telling the driver the interval that it is going to be told changes nothing. -/
theorem outlook_applySwapInterval (s : Surface) :
    s.applySwapInterval.outlook =
      { s.outlook with swapInterval := FrameRate.swapInterval s.frameRate } := by
  have hp : s.applySwapInterval.canvas.device.prospects = s.canvas.device.prospects :=
    Device.prospects_performAll _ _
  have hi : s.applySwapInterval.driver.pipeline.swapInterval =
      FrameRate.swapInterval s.frameRate := rfl
  have hset : s.applySwapInterval.canvas.backing.set? = s.canvas.backing.set? := rfl
  simp only [outlook, hp, hi, hset]
  simp only [applySwapInterval, Bool.false_eq_true, if_false]

theorem outlook_setFrameRate (s : Surface) (rate : Single) :
    (s.setFrameRate rate).2.outlook = s.outlook.apply (.frameRate rate) := by
  unfold setFrameRate
  simp only [Outlook.apply]
  split
  · dsimp only
    split
    · rw [outlook_applySwapInterval]
      rfl
    · rfl
  · rfl

theorem outlook_adoptContext (s : Surface) (context : Context) :
    (s.adoptContext context).outlook = s.outlook.apply (.adoptContext context) := by
  have hset : (s.adoptContext context).canvas.backing.set? =
      s.canvas.backing.set?.filter fun _ => s.context.coincides context := by
    obtain ⟨hc, hcanvas⟩ | ⟨hc, hcanvas⟩ := s.canvas_adoptContext context
    all_goals
      rw [hc, hcanvas]
      cases s.canvas.backing.set? <;> rfl
  simp only [outlook, hset, device_adoptContext]
  rfl

/-- An event changes the outlook of the surface as it changes the surface. -/
theorem outlook_apply (s : Surface) (e : Event) : (s.apply e).outlook = s.outlook.apply e := by
  cases e with
  | adoptContext context => exact s.outlook_adoptContext context
  | resized size =>
    show { outlook { s with canvas := s.canvas.destroy } with size := size } = _
    rw [outlook_destroy]
    rfl
  | frameRate rate => exact s.outlook_setFrameRate rate
  | teardown =>
    refine (outlook_destroy { s with canvas := s.canvas.releasePrograms s.context }).trans ?_
    rw [outlook_releasePrograms]
    rfl

theorem outlook_drain (s : Surface) :
    s.drain.outlook = s.pending.foldl Outlook.apply s.outlook := by
  refine drain_induct (P := fun events s₁ =>
    events.foldl Outlook.apply s₁.outlook = s.pending.foldl Outlook.apply s.outlook) rfl ?_ ?_
  · intro e events s₁ h
    rw [outlook_apply]
    exact h
  · exact fun _ h => h

/-! ## The update -/

def standing (s : Surface) : Standing where
  size := s.size
  context := s.context
  capabilities := s.capabilities
  frameRate := s.frameRate
  drawableOutdated := s.drawableOutdated
  swapInterval := s.driver.pipeline.swapInterval
  design? := s.canvas.backing.set?.map (·.design)

theorem retains_settle (hr : s.driver.objects.Regular) : s.Retains s.settle := by
  rcases s.settle_cases with h | h
  all_goals rw [h]
  · exact .refl hr
  · exact retains_applySwapInterval hr

/-- Telling what is due changes nothing about what the driver is going to be told. -/
theorem outlook_settle (s : Surface) : s.settle.outlook = s.outlook := by
  unfold settle
  split
  · rename_i h
    rw [Bool.and_eq_true] at h
    have hi : s.outlook.swapInterval = FrameRate.swapInterval s.frameRate := if_pos h.1
    rw [outlook_applySwapInterval, ← hi]
  · rfl

/-- In a live context the driver knows the interval in the end. -/
theorem swapInterval_settle (hl : s.context.isLive = true) :
    s.settle.driver.pipeline.swapInterval = s.outlook.swapInterval := by
  rw [settle, hl, Bool.and_true]
  cases hd : s.swapIntervalDue with
  | true => exact (if_pos hd).symm
  | false => exact (if_neg (by rw [hd]; exact Bool.false_ne_true)).symm

/-- What an update does once the events are applied and the interval was told. -/
theorem standing_of_settled (hr : s.driver.objects.Regular) (hl : s.context.isLive = true)
    (hi : s.driver.pipeline.swapInterval = s.outlook.swapInterval)
    {outcome : Except Failure Unit}
    (h : (if s.needsSet then s.onCanvas (s.canvas.ensure s.order s.capabilities)
      else (.ok (), s)) = (outcome, s')) :
    (outcome, s'.standing) = s.outlook.update := by
  have hneeds : s.needsSet = (s.outlook.drawsOffscreen && !s.outlook.size.isEmpty) := by
    rw [needsSet, hl, Bool.and_true]
    rfl
  rw [Outlook.update, ← hneeds]
  cases hn : s.needsSet with
  | true =>
    rw [hn, if_pos rfl] at h
    have hforecast : _ = Backing.forecast s.outlook.set? s.outlook.prospects s.order
      s.outlook.capabilities := Backing.ensure_forecast hr s.canvas.backing s.order s.capabilities
    obtain ⟨b, e, he, rfl⟩ := onCanvas_ensure h
    have hinterval : e.driver.pipeline.swapInterval = s.outlook.swapInterval :=
      (Backing.swapInterval_ensure hr he).trans hi
    rw [he, order] at hforecast
    rw [if_pos rfl, show s.outlook.settings = s.settings from rfl,
      show s.outlook.size = s.size from rfl, show s.outlook.context = s.context from rfl,
      ← hforecast, ← hinterval]
    rfl
  | false =>
    rw [hn, if_neg Bool.false_ne_true] at h
    cases h
    rw [if_neg Bool.false_ne_true, standing, hi]
    rfl

/-- What an update comes to follows from the outlook once the events are applied. -/
theorem standing_of_update (hr : s.driver.objects.Regular)
    (hl : s.drain.context.isLive = true) :
    (s.update.1, s.update.2.standing) = s.drain.outlook.update := by
  have hdrain := (retains_drain hr).regular
  have houtlook := outlook_settle s.drain
  have hinterval := swapInterval_settle hl
  rw [← houtlook] at hinterval ⊢
  have hcontext : s.drain.settle.context = s.drain.context := congrArg Outlook.context houtlook
  exact standing_of_settled (retains_settle hdrain).regular (by rw [hcontext]; exact hl) hinterval
    (update_eq s).symm

/-- Two queues that differ in the interleaving of events of different kinds lead to the same
outlook, so an update on the one comes to the same as an update on the other. -/
theorem update_of_interleaves {profile : Profile} {settings : Settings} {policy : Policy}
    {may : Surface → Operation → Prop} {app : Surface → Incident → Prop}
    (h : Course may app (withPolicy profile settings policy) s) {q q' : List Event}
    (hq : Event.Interleaves q q')
    (hl : { s with pending := q }.drain.context.isLive = true) :
    { s with pending := q }.update.1 = { s with pending := q' }.update.1 ∧
      { s with pending := q }.update.2.standing = { s with pending := q' }.update.2.standing := by
  have hr : s.driver.objects.Regular := h.regular (Objects.regular_emptyAfter 0)
  have houtlook : { s with pending := q }.drain.outlook =
      { s with pending := q' }.drain.outlook := by
    rw [outlook_drain, outlook_drain]
    exact foldl_eq_of_filter_eq Outlook.apply_comm hq _
  have hl' : { s with pending := q' }.drain.context.isLive = true := by
    rw [← hl]
    exact congrArg (·.context.isLive) houtlook.symm
  have h₁ := standing_of_update (s := { s with pending := q }) hr hl
  have h₂ := standing_of_update (s := { s with pending := q' }) hr hl'
  rw [houtlook, ← h₂] at h₁
  exact Prod.mk.inj h₁

/-- Turned round, the first events of a surface lead to the same set in the same context. -/
theorem update_of_first_events_turned_round :
    let s := withPolicy .full .standard .always
    let q : List Event := [.adoptContext (.live 1), .resized ⟨4, 4⟩,
      .frameRate (Binary.ofNat 120), .teardown]
    Event.Interleaves q q.reverse ∧ { s with pending := q }.update.1 = .ok () ∧
      { s with pending := q }.update.2.standing.design?.isSome = true ∧
      { s with pending := q }.update.2.standing =
        { s with pending := q.reverse }.update.2.standing := by
  intro s q
  have hq : Event.Interleaves q q.reverse := by
    intro kind
    cases kind <;> rfl
  have hcourse : Course (fun _ _ => False) (fun _ _ => False) s s := .start
  obtain ⟨hlive, hok, hset⟩ : { s with pending := q }.drain.context.isLive = true ∧
      { s with pending := q }.update.1 = .ok () ∧
      { s with pending := q }.update.2.standing.design?.isSome = true := by decide +kernel
  obtain ⟨-, hstanding⟩ := update_of_interleaves hcourse hq hlive
  exact ⟨hq, hok, hset, hstanding⟩

end Surface

end Compositor
