import Compositor.Proofs.Surface.Fitting

/-!
# What is kept after a drawable was granted

A host that grants a drawable with several samples grants it to a surface that has decided to draw
to the display. No set is made from then on unless the surface decides anew, and it does so each
time that it asks for a drawable, before the host has answered. So a request that the host refuses
may leave a surface that draws offscreen over the drawable it has.

The decision concerns the sets to come only. A set that is there when the drawable is granted
stays until the size or the context changes or the surface is torn down.
-/

namespace Compositor

namespace Surface

/-- What every operation but the opening of a drawable leaves of the decision and of the set. -/
structure Retains (s s' : Surface) : Prop where
  regular : s'.driver.objects.Regular
  terms : s.SameTerms s'
  /-- No set is made under the decision to draw to the display. -/
  set : s.drawsOffscreen = false →
    s'.canvas.backing.set? = s.canvas.backing.set? ∨ s'.canvas.backing.set? = none

variable {s s' s'' : Surface}

namespace Retains

theorem refl (hr : s.driver.objects.Regular) : s.Retains s :=
  ⟨hr, ⟨rfl, rfl, rfl⟩, fun _ => Or.inl rfl⟩

theorem trans (h : s.Retains s') (h' : s'.Retains s'') : s.Retains s'' where
  regular := h'.regular
  terms := ⟨h'.terms.settings.trans h.terms.settings, h'.terms.policy.trans h.terms.policy,
    h'.terms.drawsOffscreen.trans h.terms.drawsOffscreen⟩
  set hd := by
    rcases h'.set (h.terms.drawsOffscreen.trans hd) with hsame | hnone
    · rw [hsame]
      exact h.set hd
    · exact Or.inr hnone

/-- The set is left alone. -/
theorem of_same (ht : s.SameTerms s') (hr : s'.driver.objects.Regular)
    (hb : s'.canvas.backing.set? = s.canvas.backing.set?) : s.Retains s' :=
  ⟨hr, ht, fun _ => Or.inl hb⟩

/-- The set is given up. -/
theorem of_none (ht : s.SameTerms s') (hr : s'.driver.objects.Regular)
    (hb : s'.canvas.backing.set? = none) : s.Retains s' :=
  ⟨hr, ht, fun _ => Or.inr hb⟩

end Retains

/-! ## Steps -/

theorem retains_idle (hr : s.driver.objects.Regular) {c : Canvas} (hi : s.canvas.Idles c) :
    s.Retains { s with canvas := c } :=
  .of_same ⟨rfl, rfl, rfl⟩ (hi.grows.regular hr) hi.set

theorem retains_work (hr : s.driver.objects.Regular) {c : Canvas}
    (hw : ∃ new, s.canvas.Works s.context c new) : s.Retains { s with canvas := c } := by
  obtain ⟨new, hw⟩ := hw
  exact .of_same ⟨rfl, rfl, rfl⟩ (hw.grows.regular hr) hw.set

theorem retains_adoptContext (hr : s.driver.objects.Regular) (context : Context) :
    s.Retains (s.adoptContext context) := by
  have hr' : (s.adoptContext context).driver.objects.Regular := by
    rwa [driver_adoptContext]
  obtain ⟨-, hcanvas⟩ | ⟨-, hcanvas⟩ := s.canvas_adoptContext context
  · exact .of_same ⟨rfl, rfl, rfl⟩ hr' (by rw [hcanvas])
  · exact .of_none ⟨rfl, rfl, rfl⟩ hr' (by rw [hcanvas]; rfl)

theorem retains_resize (hr : s.driver.objects.Regular) (size : Size) :
    s.Retains (s.resize size) :=
  .of_none ⟨rfl, rfl, rfl⟩ ((s.canvas.backing.drops_destroy _).1.edits.regular hr)
    (Backing.set?_destroy _ _)

theorem retains_release (hr : s.driver.objects.Regular) : s.Retains s.release := by
  have hprograms := (s.canvas.drops_releasePrograms s.context).edits.regular hr
  exact .of_none ⟨rfl, rfl, rfl⟩ ((Backing.drops_destroy _ _).1.edits.regular hprograms)
    (Backing.set?_destroy _ _)

theorem retains_applySwapInterval (hr : s.driver.objects.Regular) :
    s.Retains s.applySwapInterval := by
  have hi := s.idles_applySwapInterval hr
  exact .of_same ⟨rfl, rfl, rfl⟩ (hi.grows.regular hr) hi.set

theorem retains_setFrameRate (hr : s.driver.objects.Regular) (rate : Numeric.Single) :
    s.Retains (s.setFrameRate rate).2 :=
  setFrameRate_induct (.refl hr) (fun _ _ => .of_same ⟨rfl, rfl, rfl⟩ hr rfl)
    fun _ h => h.trans (retains_applySwapInterval h.regular)

theorem retains_apply (hr : s.driver.objects.Regular) (e : Event) : s.Retains (s.apply e) := by
  cases e with
  | adoptContext context => exact retains_adoptContext hr context
  | resized size => exact retains_resize hr size
  | frameRate rate => exact retains_setFrameRate hr rate
  | teardown => exact retains_release hr

theorem retains_drain (hr : s.driver.objects.Regular) : s.Retains s.drain := by
  refine drain_induct (P := fun _ => s.Retains) (.refl hr) ?_ ?_
  · exact fun e _ _ h => h.trans (retains_apply h.regular e)
  · exact fun _ h => h.trans (.of_same ⟨rfl, rfl, rfl⟩ h.regular rfl)

/-- Under the decision to draw to the display nothing is ensured. -/
theorem retains_ensure (hr : s.driver.objects.Regular) (hn : s.needsSet = true)
    {outcome : Except Failure Unit}
    (he : s.onCanvas (s.canvas.ensure s.order s.capabilities) = (outcome, s')) :
    s.Retains s' := by
  obtain ⟨b', e, hb, rfl⟩ := onCanvas_ensure he
  have hdraws : s.drawsOffscreen = true := by
    simp only [needsSet, Bool.and_eq_true] at hn
    exact hn.1.1
  refine ⟨Backing.regular_ensure hr hb, ⟨rfl, rfl, rfl⟩, fun hnot => ?_⟩
  rw [hdraws] at hnot
  cases hnot

theorem retains_update (hr : s.driver.objects.Regular) : s.Retains s.update.2 := by
  refine update_induct (P := s.Retains) (retains_drain hr) ?_ ?_
  · exact fun _ h => h.trans (retains_applySwapInterval h.regular)
  · exact fun _ _ _ h hn he => h.trans (retains_ensure h.regular hn he)

theorem retains_beginFrame (hr : s.driver.objects.Regular) : s.Retains s.beginFrame.2 := by
  have hupdate := retains_update hr
  obtain ⟨-, hb⟩ | ⟨-, hb⟩ := s.beginFrame_cases
  all_goals rw [hb]
  · exact hupdate
  · have hi := retains_idle hupdate.regular (Canvas.idles_beginFrame hupdate.regular)
    exact hupdate.trans (hi.trans (.of_same ⟨rfl, rfl, rfl⟩ hi.regular rfl))

theorem retains_endFrame (hr : s.driver.objects.Regular) : s.Retains s.endFrame := by
  have hw := retains_work hr (Canvas.works_endFrame hr s.size s.context)
  exact hw.trans (.of_same ⟨rfl, rfl, rfl⟩ hw.regular rfl)

/-- Opening a drawable decides anew, whatever the host says. -/
theorem drawsOffscreen_openDrawable (s : Surface) (host : Host) :
    (s.openDrawable host).2.1.drawsOffscreen =
      s.policy.decide s.settings.platform s.settings.antialias.toNat s.capabilities := by
  unfold openDrawable
  dsimp only
  split <;> rfl

/-- A drawable with several samples is asked for under the decision to draw to the display. -/
theorem drawsOffscreen_of_granted {host host' : Host} {request : DrawableRequest}
    (h : s.openDrawable host = (.ok request, s', host')) (hm : request.sampleBuffers = true) :
    s'.drawsOffscreen = false := by
  unfold openDrawable at h
  dsimp only at h
  split at h
  · cases h
  · cases h
    simp only [DrawableRequest.ofNeed, Bool.and_eq_true, Bool.not_eq_true'] at hm
    exact hm.2

/-- The operation opens no drawable, or opens one. -/
theorem retains_operate (hr : s.driver.objects.Regular) (op : Operation) :
    s.Retains (s.operate op) ∨ ∃ host, op = .openDrawable host := by
  cases op with
  | openDrawable host => exact Or.inr ⟨host, rfl⟩
  | adoptContext context => exact Or.inl (retains_adoptContext hr context)
  | resize size => exact Or.inl (retains_resize hr size)
  | setFrameRate rate => exact Or.inl (retains_setFrameRate hr rate)
  | send event => exact Or.inl (.of_same ⟨rfl, rfl, rfl⟩ hr rfl)
  | update => exact Or.inl (retains_update hr)
  | beginFrame => exact Or.inl (retains_beginFrame hr)
  | endFrame => exact Or.inl (retains_endFrame hr)
  | fill color region =>
    exact Or.inl (retains_work hr (Canvas.works_fill hr s.context s.size color region))
  | drawTexture patch =>
    exact Or.inl (retains_work hr (Canvas.works_drawTexture hr s.context s.size patch))
  | readback => exact Or.inl (retains_idle hr (Canvas.idles_readback hr))
  | sampleColor x y => exact Or.inl (retains_idle hr (Canvas.idles_sampleColor hr s.size x y))
  | sampleDepth x y => exact Or.inl (retains_idle hr (Canvas.idles_sampleDepth hr s.size x y))
  | sampleStencil x y =>
    exact Or.inl (retains_idle hr (Canvas.idles_sampleStencil hr s.size x y))
  | tearDown host =>
    have hrelease := retains_release hr
    exact Or.inl (hrelease.trans (.of_same ⟨rfl, rfl, rfl⟩ hrelease.regular rfl))

/-! ## Courses -/

variable {may may' : Surface → Operation → Prop} {app app' : Surface → Incident → Prop}
variable {s₀ s₁ : Surface}

theorem regular_operate (hr : s.driver.objects.Regular) (op : Operation) :
    (s.operate op).driver.objects.Regular := by
  rcases retains_operate hr op with h | ⟨host, rfl⟩
  · exact h.regular
  · show (s.openDrawable host).2.1.canvas.device.driver.objects.Regular
    rw [(s.openDrawable_eq host).1]
    exact hr

theorem Course.regular (h : Course may app s₀ s) (hr : s₀.driver.objects.Regular) :
    s.driver.objects.Regular := by
  induction h with
  | start => exact hr
  | operate _ _ ih => exact regular_operate ih _
  | undergo _ _ ih => exact Device.regular_undergo ih _

/-- If the surface asked for a drawable now, it would decide to draw offscreen. -/
def DecidesOffscreen (s : Surface) : Prop :=
  s.policy.decide s.settings.platform s.settings.antialias.toNat s.capabilities = true

/-- No drawable is granted: every request for one is refused. -/
def GrantsNothing (_ : Surface) : Operation → Prop
  | .openDrawable host => host.refusal.isSome = true
  | _ => True

/-- On the way to `s` a drawable was refused that was asked for under the decision to draw
offscreen. -/
def RefusedOffscreen (app : Surface → Incident → Prop) (s₁ s : Surface) : Prop :=
  ∃ t host, Course GrantsNothing app s₁ t ∧ host.refusal.isSome = true ∧ t.DecidesOffscreen ∧
    Course GrantsNothing app (t.operate (.openDrawable host)) s

/-- While nothing is granted and no refusal is in the way, the decision to draw to the display
stands, and there is no set but the one that was there. -/
theorem Course.retained (h : Course GrantsNothing app s₁ s) (hr : s₁.driver.objects.Regular)
    (hd : s₁.drawsOffscreen = false) :
    (s.drawsOffscreen = false ∧
        (s.canvas.backing.set? = s₁.canvas.backing.set? ∨ s.canvas.backing.set? = none)) ∨
      RefusedOffscreen app s₁ s := by
  induction h with
  | start => exact Or.inl ⟨hd, Or.inl rfl⟩
  | @operate s op hc hm ih =>
    rcases ih with ⟨hoff, hset⟩ | ⟨t, host, htogether, hrefused, hdecides, hrest⟩
    · rcases retains_operate (hc.regular hr) op with h | ⟨host, rfl⟩
      · refine Or.inl ⟨h.terms.drawsOffscreen.trans hoff, ?_⟩
        rcases h.set hoff with hsame | hnone
        · rwa [hsame]
        · exact Or.inr hnone
      · have hdecided := s.drawsOffscreen_openDrawable host
        obtain ⟨hcanvas, -⟩ := s.openDrawable_eq host
        by_cases hdecides : s.DecidesOffscreen
        · exact Or.inr ⟨s, host, hc, hm, hdecides, .start⟩
        · refine Or.inl ⟨hdecided.trans (eq_false_of_ne_true hdecides), ?_⟩
          show (s.openDrawable host).2.1.canvas.backing.set? = _ ∨
            (s.openDrawable host).2.1.canvas.backing.set? = none
          rwa [hcanvas]
    · exact Or.inr ⟨t, host, htogether, hrefused, hdecides, hrest.operate hm⟩
  | undergo _ ha ih =>
    rcases ih with hkept | ⟨t, host, htogether, hrefused, hdecides, hrest⟩
    · exact Or.inl hkept
    · exact Or.inr ⟨t, host, htogether, hrefused, hdecides, hrest.undergo ha⟩

/-- A surface that was granted a drawable with several samples has no set after a later update,
while nothing else is granted, unless the set is the one that was there when the drawable was
granted, or the surface decided to draw offscreen for a drawable that was refused since. -/
theorem retained_of_granted {profile : Profile} {settings : Settings} {policy : Policy}
    {host host' : Host} {request : DrawableRequest}
    (h : Course may app (withPolicy profile settings policy) s)
    (hgranted : s.openDrawable host = (.ok request, s₁, host'))
    (hmultisample : request.sampleBuffers = true)
    (hlater : Course GrantsNothing app' s₁ s'') (hu : s''.update = (.ok (), s')) :
    s'.canvas.backing.isOffscreen = false ∨
      (s'.canvas.backing.set? = s.canvas.backing.set? ∧ s.canvas.backing.isOffscreen = true) ∨
      RefusedOffscreen app' s₁ s'' := by
  have hcanvas : s₁.canvas = s.canvas := by
    rw [← (s.openDrawable_eq host).1, hgranted]
  have hr : s₁.driver.objects.Regular := by
    show s₁.canvas.device.driver.objects.Regular
    rw [hcanvas]
    exact h.regular (Objects.regular_emptyAfter 0)
  rcases hlater.retained hr (drawsOffscreen_of_granted hgranted hmultisample) with
    ⟨hoff, hset⟩ | hrefused
  · have hupdate : s''.Retains s' := by
      have := retains_update (hlater.regular hr)
      rwa [hu] at this
    have hkept : s'.canvas.backing.set? = s₁.canvas.backing.set? ∨
        s'.canvas.backing.set? = none := by
      rcases hupdate.set hoff with hsame | hnone
      · rwa [hsame]
      · exact Or.inr hnone
    rw [hcanvas] at hkept
    rw [Backing.isOffscreen, Backing.isOffscreen]
    rcases hkept with hsame | hnone
    · rw [hsame]
      cases s.canvas.backing.set? with
      | none => exact Or.inl rfl
      | some set => exact Or.inr (Or.inl ⟨rfl, rfl⟩)
    · rw [hnone]
      exact Or.inl rfl
  · exact Or.inr (Or.inr hrefused)

/-- A policy that draws offscreen where several samples can be had. -/
def whereMultisample : Policy := fun _ samples caps => caps.multisample && decide (1 < samples)

/-- A granted drawable, a report that changes the decision, and a refused drawable leave a surface
that draws into a set of several samples over a drawable of several samples. -/
theorem retained_of_refused_drawable :
    let s := withPolicy .full { Settings.standard with antialias := 4 } whereMultisample
    let granted := s.openDrawable .idle
    let refused : Host := { Host.idle with refusal := some (.driver "host refused") }
    let t := ((granted.2.1.operate (.adoptContext (.live 1))).operate (.resize ⟨4, 4⟩)).operate
      (.openDrawable refused)
    granted.1.map (·.sampleBuffers) = .ok true ∧ t.update.1 = .ok () ∧
      t.update.2.canvas.backing.isOffscreen = true ∧
      RefusedOffscreen (fun _ _ => False) granted.2.1 t := by
  intro s granted refused t
  obtain ⟨hok, hoffscreen⟩ : t.update.1 = .ok () ∧
      t.update.2.canvas.backing.isOffscreen = true := by decide +kernel
  have hlater : Course GrantsNothing (fun _ _ => False) granted.2.1 t :=
    @Course.operate _ _ _ _ (.openDrawable refused)
      (@Course.operate _ _ _ _ (.resize ⟨4, 4⟩)
        (@Course.operate _ _ _ _ (.adoptContext (.live 1)) .start trivial) trivial) rfl
  have hfirst : Course (fun _ _ => True) (fun _ _ => False) s s := .start
  have hgranted : s.openDrawable .idle = (.ok (.ofNeed 4 false), granted.2.1, granted.2.2) := rfl
  have hu : t.update = (.ok (), t.update.2) := by rw [← hok]
  refine ⟨rfl, hok, hoffscreen, ?_⟩
  rcases retained_of_granted hfirst hgranted rfl hlater hu with
    hnone | ⟨-, hbefore⟩ | hrefused
  · rw [hnone] at hoffscreen
    cases hoffscreen
  · cases hbefore
  · exact hrefused

end Surface

end Compositor
