import Compositor.Proofs.Surface.Running

/-!
# Sets that fit

A surface under the policy of its settings has no set that was made for another size, another
context or another sample count than those it has now. Nothing is asked of the order of operations
here: contexts may be reported that are not current, events may wait for as long as they like, and
the driver may fail at any time.

What carries this is that every change of the size or the context gives the set up, and that the
policies of settings do not look at the capabilities, so that opening a drawable decides as before.
-/

namespace Compositor

open Numeric

/-- The policies that settings ask for do not look at the capabilities. -/
theorem Settings.decide_policy (c : Settings) (platform : Platform) (antialias : Nat)
    (caps caps' : Capabilities) :
    c.policy.decide platform antialias caps = c.policy.decide platform antialias caps' := by
  unfold policy
  split <;> rfl

namespace Surface

/-- A set was made for the surface as it is now. -/
structure Fits (s : Surface) (set : BufferSet) : Prop where
  size : set.order.size = s.size
  /-- The context is live, and it is the one reported last. -/
  owner : set.order.owner.coincides s.context = true
  samples : set.order.samples = effectiveSamples s.settings.antialias.toNat

/-- The surface decides as its settings say, and a set that it has is one it needs, as it would be
ordered now. -/
structure Fitted (s : Surface) : Prop where
  regular : s.driver.objects.Regular
  policy : s.policy = s.settings.policy
  decided : s.drawsOffscreen =
    s.policy.decide s.settings.platform s.settings.antialias.toNat .none
  set : ∀ set, s.canvas.backing.set? = some set → set.order = s.order ∧ s.needsSet = true

/-- What decides about offscreen drawing is the same. -/
structure SameTerms (s s' : Surface) : Prop where
  settings : s'.settings = s.settings
  policy : s'.policy = s.policy
  drawsOffscreen : s'.drawsOffscreen = s.drawsOffscreen

variable {s s' : Surface}

theorem fitted_of_create {profile : Profile} {settings : Settings}
    (h : create profile settings = .ok s) : s.Fitted := by
  unfold create at h
  cases hv : settings.validate with
  | error failure =>
    rw [hv] at h
    cases h
  | ok =>
    rw [hv] at h
    cases h
    exact ⟨Objects.regular_emptyAfter 0, rfl, rfl, nofun⟩

namespace Fitted

theorem fits (h : s.Fitted) {set : BufferSet} (hset : s.canvas.backing.set? = some set) :
    s.Fits set := by
  obtain ⟨horder, hneeded⟩ := h.set set hset
  simp only [needsSet, Bool.and_eq_true] at hneeded
  rw [order] at horder
  refine ⟨by rw [horder]; rfl, ?_, by rw [horder]; rfl⟩
  rw [horder]
  exact Context.coincides_iff.mpr ⟨rfl, hneeded.1.2⟩

/-- A surface that needs no set has none. -/
theorem set?_eq_none (h : s.Fitted) (hn : s.needsSet = false) : s.canvas.backing.set? = none := by
  cases hset : s.canvas.backing.set? with
  | none => rfl
  | some set =>
    rw [(h.set set hset).2] at hn
    cases hn

/-! ## Steps -/

/-- The surface wants what it wanted before, and has the set that it had. -/
theorem keep (h : s.Fitted) (ht : s.SameTerms s') (hr : s'.driver.objects.Regular)
    (hc : s'.context = s.context) (hs : s'.size = s.size)
    (hb : s'.canvas.backing.set? = s.canvas.backing.set?) : s'.Fitted := by
  have horder : s'.order = s.order := by rw [order, order, hc, hs, ht.settings]
  have hneeds : s'.needsSet = s.needsSet := by rw [needsSet, needsSet, hc, hs, ht.drawsOffscreen]
  refine ⟨hr, by rw [ht.policy, ht.settings]; exact h.policy, ?_, ?_⟩
  · rw [ht.drawsOffscreen, ht.policy, ht.settings]
    exact h.decided
  · rw [hb, horder, hneeds]
    exact h.set

/-- The set is given up, whatever else is wanted from then on. -/
theorem giveUp (h : s.Fitted) (ht : s.SameTerms s') (hr : s'.driver.objects.Regular)
    (hb : s'.canvas.backing.set? = none) : s'.Fitted := by
  refine ⟨hr, by rw [ht.policy, ht.settings]; exact h.policy, ?_, by rw [hb]; exact nofun⟩
  rw [ht.drawsOffscreen, ht.policy, ht.settings]
  exact h.decided

/-- Work on the canvas alone. -/
theorem onCanvas (h : s.Fitted) {c : Canvas} (hb : c.backing.set? = s.canvas.backing.set?)
    (hr : c.device.driver.objects.Regular) : Fitted { s with canvas := c } :=
  h.keep ⟨rfl, rfl, rfl⟩ hr rfl rfl hb

theorem idle (h : s.Fitted) {c : Canvas} (hi : s.canvas.Idles c) :
    Fitted { s with canvas := c } :=
  h.onCanvas hi.set (hi.grows.regular h.regular)

theorem work (h : s.Fitted) {c : Canvas} (hw : ∃ new, s.canvas.Works s.context c new) :
    Fitted { s with canvas := c } := by
  obtain ⟨new, hw⟩ := hw
  exact h.onCanvas hw.set (hw.grows.regular h.regular)

theorem adoptContext (h : s.Fitted) (context : Context) : (s.adoptContext context).Fitted := by
  have hr : (s.adoptContext context).driver.objects.Regular := by
    rw [driver_adoptContext]
    exact h.regular
  obtain ⟨hc, hcanvas⟩ | ⟨-, hcanvas⟩ := s.canvas_adoptContext context
  · exact h.keep ⟨rfl, rfl, rfl⟩ hr (Context.coincides_iff.mp hc).1.symm rfl (by rw [hcanvas])
  · exact h.giveUp ⟨rfl, rfl, rfl⟩ hr (by rw [hcanvas]; rfl)

theorem resize (h : s.Fitted) (size : Size) : (s.resize size).Fitted :=
  h.giveUp ⟨rfl, rfl, rfl⟩ ((s.canvas.backing.drops_destroy _).1.edits.regular h.regular)
    (Backing.set?_destroy _ _)

theorem release (h : s.Fitted) : s.release.Fitted := by
  have hprograms := (s.canvas.drops_releasePrograms s.context).edits.regular h.regular
  exact h.giveUp ⟨rfl, rfl, rfl⟩ ((Backing.drops_destroy _ _).1.edits.regular hprograms)
    (Backing.set?_destroy _ _)

theorem applySwapInterval (h : s.Fitted) : s.applySwapInterval.Fitted := by
  have hi := s.idles_applySwapInterval h.regular
  exact (h.idle hi).keep ⟨rfl, rfl, rfl⟩ (hi.grows.regular h.regular) rfl rfl rfl

theorem setFrameRate (h : s.Fitted) (rate : Single) : (s.setFrameRate rate).2.Fitted :=
  setFrameRate_induct h (fun _ _ => h.keep ⟨rfl, rfl, rfl⟩ h.regular rfl rfl rfl)
    fun _ h => h.applySwapInterval

/-- Opening a drawable decides as before. -/
theorem openDrawable (h : s.Fitted) (host : Host) : (s.openDrawable host).2.1.Fitted := by
  have hsame : s.policy.decide s.settings.platform s.settings.antialias.toNat s.capabilities =
      s.drawsOffscreen := by
    rw [h.decided, h.policy]
    exact s.settings.decide_policy _ _ _ _
  unfold Surface.openDrawable
  dsimp only
  split
  · exact h.keep ⟨rfl, rfl, hsame⟩ h.regular rfl rfl rfl
  · exact h.keep ⟨rfl, rfl, hsame⟩ h.regular rfl rfl rfl

theorem apply (h : s.Fitted) (e : Event) : (s.apply e).Fitted := by
  cases e with
  | adoptContext context => exact h.adoptContext context
  | resized size => exact h.resize size
  | frameRate rate => exact h.setFrameRate rate
  | teardown => exact h.release

theorem drain (h : s.Fitted) : s.drain.Fitted := by
  refine drain_induct (P := fun _ => Fitted) h ?_ ?_
  · exact fun e _ _ h => h.apply e
  · exact fun _ h => h.keep ⟨rfl, rfl, rfl⟩ h.regular rfl rfl rfl

theorem settle (h : s.Fitted) : s.settle.Fitted := by
  rcases s.settle_cases with hs | hs
  all_goals rw [hs]
  · exact h
  · exact h.applySwapInterval

/-- A set that is ensured is as ordered; after a failure there is none. -/
theorem ensure (h : s.Fitted) (hn : s.needsSet = true) {outcome : Except Failure Unit}
    (he : s.onCanvas (s.canvas.ensure s.order s.capabilities) = (outcome, s')) :
    s'.Fitted ∧ s'.needsSet = true ∧
      (s'.canvas.backing.set?.isSome = true ↔ outcome = .ok ()) := by
  obtain ⟨b', e, hb, rfl⟩ := onCanvas_ensure he
  have hdrop := (s.canvas.backing.drops_discard s.context s.canvas.device).1
  have hr := hdrop.edits.regular h.regular
  cases outcome with
  | error failure =>
    obtain ⟨hnone, hrest, -⟩ := Backing.restored_of_ensure h.regular hb
    refine ⟨h.giveUp ⟨rfl, rfl, rfl⟩ (hrest.adds.grows.regular hr) hnone, hn, ?_⟩
    dsimp only
    rw [hnone]
    exact ⟨nofun, nofun⟩
  | ok =>
    cases hserves : s.canvas.backing.serves s.order with
    | true =>
      rw [Backing.ensure_of_serves hserves] at hb
      cases hb
      refine ⟨h, hn, fun _ => rfl, fun _ => ?_⟩
      exact Option.isSome_of_any hserves
    | false =>
      obtain ⟨layout, set, -, rfl, hmade⟩ := Backing.made_of_ensure h.regular hserves hb
      refine ⟨⟨hmade.grows.regular hr, h.policy, h.decided, fun set' hset => ?_⟩, hn,
        fun _ => rfl, fun _ => rfl⟩
      cases hset
      exact ⟨hmade.order, hn⟩

/-- After an update that succeeds there is a set exactly where one is needed, and after one that
fails there is none. -/
theorem update (h : s.Fitted) {outcome : Except Failure Unit} (hu : s.update = (outcome, s')) :
    s'.Fitted ∧ (s'.canvas.backing.set?.isSome = true ↔ outcome = .ok () ∧ s'.needsSet = true) := by
  have hfitted := h.drain.settle
  rcases s.update_cases with ⟨hn, hs⟩ | ⟨hn, hs⟩
  · cases hu.symm.trans hs
    refine ⟨hfitted, ?_⟩
    rw [hfitted.set?_eq_none hn, hn]
    exact ⟨nofun, fun hboth => nomatch hboth.2⟩
  · obtain ⟨hensured, hn', hset⟩ := hfitted.ensure hn (hs.symm.trans hu)
    exact ⟨hensured, by rw [hset, hn', eq_self_iff_true, and_true]⟩

theorem beginFrame (h : s.Fitted) : s.beginFrame.2.Fitted := by
  have hupdated : s.update.2.Fitted := (h.update rfl).1
  obtain ⟨-, hb⟩ | ⟨-, hb⟩ := s.beginFrame_cases
  · rwa [hb]
  · have hi := Canvas.idles_beginFrame hupdated.regular
    rw [hb]
    exact (hupdated.idle hi).keep ⟨rfl, rfl, rfl⟩ (hi.grows.regular hupdated.regular) rfl rfl rfl

theorem endFrame (h : s.Fitted) : s.endFrame.Fitted := by
  have hw := h.work (Canvas.works_endFrame h.regular s.size s.context)
  exact hw.keep ⟨rfl, rfl, rfl⟩ hw.regular rfl rfl rfl

/-- Every operation leaves a set that fits. -/
theorem operate (h : s.Fitted) (op : Operation) : (s.operate op).Fitted := by
  have hr := h.regular
  cases op with
  | openDrawable host => exact h.openDrawable host
  | adoptContext context => exact h.adoptContext context
  | resize size => exact h.resize size
  | setFrameRate rate => exact h.setFrameRate rate
  | send event => exact h.keep ⟨rfl, rfl, rfl⟩ hr rfl rfl rfl
  | update => exact (h.update rfl).1
  | beginFrame => exact h.beginFrame
  | endFrame => exact h.endFrame
  | fill color region => exact h.work (Canvas.works_fill hr s.context s.size color region)
  | drawTexture patch => exact h.work (Canvas.works_drawTexture hr s.context s.size patch)
  | readback => exact h.idle (Canvas.idles_readback hr)
  | sampleColor x y => exact h.idle (Canvas.idles_sampleColor hr s.size x y)
  | sampleDepth x y => exact h.idle (Canvas.idles_sampleDepth hr s.size x y)
  | sampleStencil x y => exact h.idle (Canvas.idles_sampleStencil hr s.size x y)
  | tearDown host => exact h.release.keep ⟨rfl, rfl, rfl⟩ h.release.regular rfl rfl rfl

/-- No incident touches the set or what is wanted of it. -/
theorem undergo (h : s.Fitted) (i : Incident) : (s.undergo i).Fitted :=
  h.onCanvas rfl (Device.regular_undergo h.regular i)

end Fitted

theorem Course.fitted {may : Surface → Operation → Prop} {app : Surface → Incident → Prop}
    {s₀ : Surface} (h : Course may app s₀ s) (hs : s₀.Fitted) : s.Fitted := by
  induction h with
  | start => exact hs
  | operate _ _ ih => exact ih.operate _
  | undergo _ _ ih => exact ih.undergo _

/-- Throughout every course of a surface under the policy of its settings a set fits. After an
update that succeeds there is a set exactly where frames are drawn offscreen, the context is live
and the size is not empty; after one that fails there is none. -/
theorem fits_of_course {profile : Profile} {settings : Settings} {s₀ : Surface}
    {may : Surface → Operation → Prop} {app : Surface → Incident → Prop}
    (hs : create profile settings = .ok s₀) (h : Course may app s₀ s) :
    (∀ set, s.canvas.backing.set? = some set → s.Fits set) ∧
      (∀ s', s.update = (.ok (), s') →
        (s'.canvas.backing.set?.isSome = true ↔
          s'.drawsOffscreen = true ∧ s'.context.isLive = true ∧ s'.size.isEmpty = false)) ∧
      ∀ failure s', s.update = (.error failure, s') → s'.canvas.backing.set? = none := by
  have hfitted := h.fitted (fitted_of_create hs)
  refine ⟨fun set hset => hfitted.fits hset, fun s' hu => ?_, fun failure s' hu => ?_⟩
  · rw [(hfitted.update hu).2]
    simp only [needsSet, Bool.and_eq_true, Bool.not_eq_true', and_assoc, true_and]
  · have hset := (hfitted.update hu).2
    rw [← Option.not_isSome_iff_eq_none, hset]
    rintro ⟨hok, -⟩
    cases hok

/-- A first update makes a set, although the context that was reported is not the current one. -/
theorem fits_of_first_update :
    let settings : Settings := { Settings.standard with offscreen := .always }
    let s := ((withPolicy .full settings settings.policy).operate
      (.adoptContext (.live 7))).operate (.resize ⟨4, 4⟩)
    create .full settings = .ok (withPolicy .full settings settings.policy) ∧
      s.update.2.canvas.backing.set?.isSome = true := by
  intro settings s
  have hcreated : create .full settings = .ok (withPolicy .full settings settings.policy) := by
    have hvalid : settings.validate = .ok () := by decide +kernel
    rw [create, hvalid]
    rfl
  have hcourse : Course (fun _ _ => True) (fun _ _ => True)
      (withPolicy .full settings settings.policy) s :=
    (Course.start.operate trivial).operate trivial
  have hok : s.update.1 = .ok () := by decide +kernel
  obtain ⟨-, hupdated, -⟩ := fits_of_course hcreated hcourse
  exact ⟨hcreated, (hupdated _ (Prod.ext hok rfl)).mpr ⟨rfl, rfl, rfl⟩⟩

end Surface

end Compositor
