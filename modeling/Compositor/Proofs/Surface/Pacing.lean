import Compositor.Proofs.Canvas.Pacing
import Compositor.Proofs.Surface.Interleaving
import Mathlib.Data.List.Chain

/-!
# Frame rates over time

A surface tells its driver the swap interval of its frame rate, at once or in an update, and notes
when the drawable does not suit the frame rate any more. Over every history in which nobody else
tells the driver a swap interval, the rates that the surface accepted say what it has noted: the
last of them is the frame rate, and the drawable is out of date exactly if one of them lies across
the limit from the one before it. The history begins anew with every drawable that is granted.

The interval is followed through the outlook, which has the one that the driver is going to be told
where the surface is yet to tell it.
-/

namespace Compositor

open Numeric

/-! ## What the accepted rates say -/

namespace FrameRate

/-- The rates need the same kind of drawable: both are above 60 frames a second, or neither is. -/
def SameSide (older newer : Single) : Prop := exceeds older 60 = exceeds newer 60

theorem changesDrawable_eq_false_iff {older newer : Single} :
    changesDrawable older newer = false ↔ SameSide older newer :=
  bne_eq_false_iff_eq

end FrameRate

/-- The frame rate that an event brings, unless it is none. -/
def Event.rate? : Event → Option Single
  | .frameRate rate => if FrameRate.isValid rate then some rate else none
  | _ => none

/-- The rates, the oldest first, account for what is noted of the frame rate. -/
structure Outlook.Paced (o : Outlook) (rates : List Single) : Prop where
  valid : FrameRate.isValid o.frameRate = true
  current : rates.getLast? = some o.frameRate
  outdated : o.drawableOutdated = false ↔ rates.IsChain FrameRate.SameSide
  interval : o.swapInterval = FrameRate.swapInterval o.frameRate

namespace Outlook.Paced

variable {o : Outlook} {rates : List Single}

/-- Another rate is accepted. -/
theorem accept (h : o.Paced rates) {rate : Single} (hv : FrameRate.isValid rate = true) :
    (o.apply (.frameRate rate)).Paced (rates ++ [rate]) := by
  have happly : o.apply (.frameRate rate) = { o with
      drawableOutdated := o.drawableOutdated || FrameRate.changesDrawable o.frameRate rate
      frameRate := rate
      swapInterval := FrameRate.swapInterval rate } := if_pos hv
  rw [happly]
  refine ⟨hv, List.getLast?_concat, ?_, rfl⟩
  dsimp only
  rw [Bool.or_eq_false_iff, h.outdated, FrameRate.changesDrawable_eq_false_iff,
    List.isChain_append, h.current]
  simp

theorem apply (h : o.Paced rates) (e : Event) : (o.apply e).Paced (rates ++ e.rate?.toList) := by
  cases e with
  | frameRate rate =>
    cases hv : FrameRate.isValid rate with
    | true =>
      rw [show (Event.frameRate rate).rate? = some rate from if_pos hv]
      exact h.accept hv
    | false =>
      have hrefused : (Event.frameRate rate).rate? = none :=
        if_neg (by rw [hv]; exact Bool.false_ne_true)
      have hsame : o.apply (.frameRate rate) = o :=
        if_neg (by rw [hv]; exact Bool.false_ne_true)
      rw [hrefused, hsame, Option.toList_none, List.append_nil]
      exact h
  | adoptContext context =>
    rw [show (Event.adoptContext context).rate?.toList = [] from rfl, List.append_nil]
    exact ⟨h.valid, h.current, h.outdated, rfl⟩
  | resized size =>
    rw [show (Event.resized size).rate?.toList = [] from rfl, List.append_nil]
    exact ⟨h.valid, h.current, h.outdated, h.interval⟩
  | teardown =>
    rw [show Event.teardown.rate?.toList = [] from rfl, List.append_nil]
    exact ⟨h.valid, h.current, h.outdated, h.interval⟩

theorem foldl_apply (h : o.Paced rates) (events : List Event) :
    (events.foldl Outlook.apply o).Paced (rates ++ events.filterMap Event.rate?) := by
  induction events generalizing o rates with
  | nil => rwa [List.filterMap_nil, List.append_nil]
  | cons e events ih =>
    have hrest := ih (h.apply e)
    rw [List.append_assoc] at hrest
    rw [List.foldl_cons, List.filterMap_cons]
    cases he : e.rate? with
    | none => rwa [he] at hrest
    | some rate => rwa [he] at hrest

end Outlook.Paced

namespace Surface

variable {s s' : Surface} {rates : List Single}

/-- The frame rates that a surface accepts in an operation, in the order in which it does. -/
def accepted (s : Surface) : Operation → List Single
  | .setFrameRate rate => (Event.frameRate rate).rate?.toList
  | .update | .beginFrame => s.pending.filterMap Event.rate?
  | _ => []

/-- Whether the host grants a drawable in an operation. -/
def isGranted (s : Surface) : Operation → Bool
  | .openDrawable host => (s.openDrawable host).1.isOk
  | _ => false

theorem paced_of_create {profile : Profile} {settings : Settings}
    (h : create profile settings = .ok s) : s.outlook.Paced [s.frameRate] := by
  unfold create at h
  cases hv : settings.validate with
  | error failure =>
    rw [hv] at h
    cases h
  | ok =>
    rw [hv] at h
    cases h
    refine ⟨?_, rfl, ⟨fun _ => .singleton _, fun _ => rfl⟩, rfl⟩
    exact Settings.isValid_of_validate hv

/-- What the canvas is used for does not matter, as long as nobody tells the driver anything. -/
theorem paced_onCanvas (h : s.outlook.Paced rates) {c : Canvas}
    (hc : c.swapInterval = s.canvas.swapInterval) :
    (outlook { s with canvas := c }).Paced rates := by
  have hinterval : (outlook { s with canvas := c }).swapInterval = s.outlook.swapInterval := by
    simp only [outlook, driver]
    rw [show c.device.driver.pipeline.swapInterval = _ from hc]
    rfl
  exact ⟨h.valid, h.current, h.outdated, hinterval.trans h.interval⟩

theorem paced_openDrawable (h : s.outlook.Paced rates) {host host' : Host}
    {answer : Except Failure DrawableRequest} (ho : s.openDrawable host = (answer, s', host')) :
    s'.outlook.Paced (if answer.isOk then [s'.frameRate] else rates) := by
  unfold openDrawable at ho
  dsimp only at ho
  split at ho
  · cases ho
    exact ⟨h.valid, h.current, h.outdated, h.interval⟩
  · cases ho
    exact ⟨h.valid, rfl, ⟨fun _ => .singleton _, fun _ => rfl⟩, h.interval⟩

theorem paced_drain (h : s.outlook.Paced rates) :
    s.drain.outlook.Paced (rates ++ s.pending.filterMap Event.rate?) := by
  rw [outlook_drain]
  exact h.foldl_apply s.pending

theorem paced_update (hr : s.driver.objects.Regular) (h : s.outlook.Paced rates) :
    s.update.2.outlook.Paced (rates ++ s.pending.filterMap Event.rate?) := by
  have hsettled := paced_drain h
  rw [← outlook_settle] at hsettled
  rw [update_eq]
  split
  · exact paced_onCanvas hsettled
      (Canvas.swapInterval_ensure (retains_settle (retains_drain hr).regular).regular _ _)
  · exact hsettled

theorem paced_beginFrame (hr : s.driver.objects.Regular) (h : s.outlook.Paced rates) :
    s.beginFrame.2.outlook.Paced (rates ++ s.pending.filterMap Event.rate?) := by
  have hupdate := paced_update hr h
  obtain ⟨-, hb⟩ | ⟨-, hb⟩ := s.beginFrame_cases
  all_goals rw [hb]
  · exact hupdate
  · exact paced_onCanvas hupdate s.update.2.canvas.swapInterval_beginFrame

/-- After an operation the rates that it brought account for what is noted, and after a drawable
was granted the rate of that moment does. -/
theorem paced_operate (hr : s.driver.objects.Regular) (h : s.outlook.Paced rates) (op : Operation) :
    (s.operate op).outlook.Paced
      (if s.isGranted op then [(s.operate op).frameRate] else rates ++ s.accepted op) := by
  have hkeep {c : Canvas} (hc : c.swapInterval = s.canvas.swapInterval) :
      (outlook { s with canvas := c }).Paced (rates ++ []) := by
    rw [List.append_nil]
    exact paced_onCanvas h hc
  cases op with
  | openDrawable host =>
    rw [show s.accepted (.openDrawable host) = [] from rfl, List.append_nil]
    exact paced_openDrawable h rfl
  | adoptContext context =>
    have hnext := h.apply (.adoptContext context)
    rwa [← outlook_apply] at hnext
  | resize size =>
    have hnext := h.apply (.resized size)
    rwa [← outlook_apply] at hnext
  | setFrameRate rate =>
    have hnext := h.apply (.frameRate rate)
    rwa [← outlook_apply] at hnext
  | tearDown host =>
    have hnext := h.apply .teardown
    rwa [← outlook_apply] at hnext
  | send event => exact hkeep rfl
  | update => exact paced_update hr h
  | beginFrame => exact paced_beginFrame hr h
  | endFrame => exact hkeep (Canvas.swapInterval_endFrame hr s.size s.context)
  | fill color region => exact hkeep (Canvas.swapInterval_fill hr s.context s.size color region)
  | drawTexture patch => exact hkeep (Canvas.swapInterval_drawTexture hr s.context s.size patch)
  | readback => exact hkeep s.canvas.swapInterval_readback
  | sampleColor x y => exact hkeep (s.canvas.swapInterval_sample s.size x y fun _ _ => rfl)
  | sampleDepth x y => exact hkeep (s.canvas.swapInterval_sample s.size x y fun _ _ => rfl)
  | sampleStencil x y => exact hkeep (s.canvas.swapInterval_sample s.size x y fun _ _ => rfl)

/-! ## Histories -/

/-- Something that happens to a surface. -/
inductive Act where
  | operate (op : Operation)
  | undergo (incident : Incident)

/-- Whether the swap interval is told by somebody other than the surface. -/
def Act.setsInterval : Act → Bool
  | .operate _ => false
  | .undergo incident => incident.setsInterval

/-- A surface with its history of frame rates. -/
structure Chronicle where
  surface : Surface
  /-- The rate at the time when the surface was made, or was last granted a drawable, and those
  that it accepted from then on. -/
  rates : List Single

namespace Chronicle

def start (s : Surface) : Chronicle := ⟨s, [s.frameRate]⟩

def after (c : Chronicle) : Act → Chronicle
  | .operate op =>
    ⟨c.surface.operate op,
      if c.surface.isGranted op then [(c.surface.operate op).frameRate]
      else c.rates ++ c.surface.accepted op⟩
  | .undergo incident => ⟨c.surface.undergo incident, c.rates⟩

/-- The rates of a chronicle account for its surface. -/
structure IsPaced (c : Chronicle) : Prop where
  regular : c.surface.driver.objects.Regular
  paced : c.surface.outlook.Paced c.rates

theorem IsPaced.after {c : Chronicle} (h : c.IsPaced) {a : Act} (ha : a.setsInterval = false) :
    (c.after a).IsPaced := by
  cases a with
  | operate op => exact ⟨regular_operate h.regular op, paced_operate h.regular h.paced op⟩
  | undergo incident =>
    exact ⟨Device.regular_undergo h.regular incident,
      paced_onCanvas h.paced (c.surface.canvas.device.swapInterval_undergo ha)⟩

end Chronicle

/-- A rate is accepted exactly if it is one, and changes nothing otherwise. -/
theorem setFrameRate_spec (s : Surface) (rate : Single) :
    ((s.setFrameRate rate).1 = .ok () ↔ FrameRate.isValid rate = true) ∧
      (FrameRate.isValid rate = false →
        (s.setFrameRate rate).2 = s ∧ s.apply (.frameRate rate) = s) := by
  rw [apply]
  unfold setFrameRate
  split
  · rename_i hv
    exact ⟨⟨fun _ => hv, fun _ => rfl⟩, fun hn => by rw [hv] at hn; cases hn⟩
  · rename_i hv
    exact ⟨⟨nofun, fun hn => absurd hn hv⟩, fun _ => ⟨rfl, rfl⟩⟩

/-- In a live context the driver is told the interval of an accepted rate at once. -/
theorem swapInterval_of_setFrameRate {rate : Single} (h : s.setFrameRate rate = (.ok (), s'))
    (hl : s'.context.isLive = true) :
    s'.driver.pipeline.swapInterval = FrameRate.swapInterval s'.frameRate := by
  unfold setFrameRate at h
  split at h
  · dsimp only at h
    split at h
    · cases h
      rfl
    · rename_i hnot
      cases h
      exact absurd hl hnot
  · cases h

theorem context_update (s : Surface) : s.update.2.context = s.drain.context := by
  have hsettled : s.drain.settle.context = s.drain.context :=
    congrArg Outlook.context (outlook_settle s.drain)
  rw [update_eq]
  split
  · exact hsettled
  · exact hsettled

/-- In a live context the driver knows the interval after an update, whatever came of it. -/
theorem swapInterval_of_update (hr : s.driver.objects.Regular) (h : s.outlook.Paced rates)
    (hl : s.update.2.context.isLive = true) :
    s.update.2.driver.pipeline.swapInterval = FrameRate.swapInterval s.update.2.frameRate := by
  rw [context_update] at hl
  have hstanding : s.update.2.standing = s.drain.outlook.update.2 :=
    congrArg Prod.snd (standing_of_update hr hl)
  have hinterval : s.update.2.driver.pipeline.swapInterval = s.drain.outlook.swapInterval :=
    congrArg Standing.swapInterval hstanding
  have hrate : s.update.2.frameRate = s.drain.outlook.frameRate :=
    congrArg Standing.frameRate hstanding
  rw [hinterval, hrate]
  exact (paced_drain h).interval

/-- Throughout every history in which nobody else tells the driver a swap interval, the frame rate
is finite and above zero, and what is no such rate is refused and changes nothing, also as an event.
In a live context the driver knows the interval of the frame rate after each that is accepted and
after every update. The drawable is out of date exactly if, since the surface was made or was last
granted a drawable, an accepted rate followed one on the other side of 60 frames a second. -/
theorem paced_of_acts {profile : Profile} {settings : Settings} {s₀ : Surface}
    (hs : create profile settings = .ok s₀) {acts : List Act}
    (hacts : ∀ a ∈ acts, a.setsInterval = false) :
    let c := acts.foldl Chronicle.after (.start s₀)
    let s := c.surface
    FrameRate.isValid s.frameRate = true ∧
      (∀ rate, ((s.setFrameRate rate).1 = .ok () ↔ FrameRate.isValid rate = true) ∧
        (FrameRate.isValid rate = false →
          (s.setFrameRate rate).2 = s ∧ s.apply (.frameRate rate) = s)) ∧
      (∀ rate s', s.setFrameRate rate = (.ok (), s') → s'.context.isLive = true →
        s'.driver.pipeline.swapInterval = FrameRate.swapInterval s'.frameRate) ∧
      (s.update.2.context.isLive = true →
        s.update.2.driver.pipeline.swapInterval = FrameRate.swapInterval s.update.2.frameRate) ∧
      (s.drawableOutdated = true ↔ ∃ i, ∃ h : i + 1 < c.rates.length,
        FrameRate.exceeds c.rates[i] 60 ≠ FrameRate.exceeds c.rates[i + 1] 60) := by
  intro c s
  have hc : c.IsPaced := by
    have hr : s₀.driver.objects.Regular := (fitted_of_create hs).regular
    refine List.foldlRecOn acts _ (motive := Chronicle.IsPaced) ⟨hr, paced_of_create hs⟩ ?_
    exact fun c hc a ha => hc.after (hacts a ha)
  refine ⟨hc.paced.valid, s.setFrameRate_spec, fun rate s' => swapInterval_of_setFrameRate,
    swapInterval_of_update hc.regular hc.paced, ?_⟩
  have hchain : s.drawableOutdated = false ↔ c.rates.IsChain FrameRate.SameSide :=
    hc.paced.outdated
  rw [← Bool.not_eq_false, hchain, List.isChain_iff_getElem]
  push Not
  rfl

/-- A rate that waits for its context, a drawable that is refused and then granted, a rate that is
none and one that needs a drawable of the other kind. -/
theorem paced_of_slowdown :
    let s₀ := withPolicy .full .standard Settings.standard.policy
    let refused : Host := { Host.idle with refusal := some (.driver "host refused") }
    let acts : List Act :=
      [.operate (.setFrameRate (Binary.ofNat 120)), .operate (.openDrawable refused),
        .operate (.openDrawable .idle), .operate (.adoptContext (.live 1)),
        .operate (.send (.frameRate (Binary.ofNat 0))),
        .operate (.send (.frameRate (Binary.ofNat 24))), .operate .update,
        .undergo .loseContext]
    let c := acts.foldl Chronicle.after (.start s₀)
    create .full .standard = .ok s₀ ∧ (∀ a ∈ acts, a.setsInterval = false) ∧
      c.rates = [Binary.ofNat 120, Binary.ofNat 24] ∧ c.surface.drawableOutdated = true ∧
      c.surface.update.2.driver.pipeline.swapInterval = 2 := by
  intro s₀ refused acts c
  have hcreated : create .full .standard = .ok s₀ := by
    have hvalid : Settings.standard.validate = .ok () := by decide
    rw [create, hvalid]
    rfl
  have hacts : ∀ a ∈ acts, a.setsInterval = false := by
    simp [acts, Act.setsInterval, Incident.setsInterval]
  obtain ⟨hrates, hlive, htwo⟩ : c.rates = [Binary.ofNat 120, Binary.ofNat 24] ∧
      c.surface.update.2.context.isLive = true ∧
      FrameRate.swapInterval c.surface.update.2.frameRate = 2 := by decide
  obtain ⟨-, -, -, hupdate, houtdated⟩ := paced_of_acts hcreated hacts
  have hsides : FrameRate.exceeds (Binary.ofNat 120) 60 ≠
      FrameRate.exceeds (Binary.ofNat 24) 60 := by decide
  refine ⟨hcreated, hacts, hrates, houtdated.mpr ⟨0, ?_⟩, (hupdate hlive).trans htwo⟩
  simp only [show (acts.foldl Chronicle.after (.start s₀)).rates =
    [Binary.ofNat 120, Binary.ofNat 24] from hrates]
  exact ⟨by decide, hsides⟩

end Surface

end Compositor
