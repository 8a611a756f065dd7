import Compositor.Proofs.Surface.Running

/-!
# Operations as moves

Every operation that may be asked of a surface is a chain of moves.
-/

namespace Compositor

open Numeric Relation

namespace Surface

variable {s : Surface}

/-- A surface in step stays so. -/
theorem Moves.inStep {s' : Surface} (h : s.Moves s') (hi : s.InStep) : s'.InStep := by
  have hcontext : s'.driver.context = s.driver.context := h.host.context
  have keep (hc : s'.context = s.context) : s'.InStep := by
    rw [InStep, hc, hcontext]
    exact hi
  cases h with
  | idles hc hs hi => exact keep hc
  | draws hd hc hs hw => exact keep hc
  | adopts hc hs hd hp hb => exact Or.inr (hc.trans hcontext.symm)
  | destroys hi hc hp hb hd => exact keep hc
  | releases hi hc hs hd => exact keep hc
  | fills hd hc hs hp hn hb hm => exact keep hc

theorem inStep_of_moves {s' : Surface} (h : ReflTransGen Moves s s') (hi : s.InStep) :
    s'.InStep := by
  induction h with
  | refl => exact hi
  | tail _ hstep ih => exact hstep.inStep ih

theorem edits_of_moves {s' : Surface} (h : ReflTransGen Moves s s') :
    s.driver.objects.Edits s'.driver.objects := by
  induction h with
  | refl => exact .refl
  | tail _ hstep ih => exact ih.trans hstep.edits

theorem host_of_moves {s' : Surface} (h : ReflTransGen Moves s s') :
    s.canvas.device.SameHost s'.canvas.device := by
  induction h with
  | refl => exact .refl _
  | tail _ hstep ih => exact ih.trans hstep.host

/-- A change of what is no canvas. -/
theorem moves_of_canvas_eq {s' : Surface} (hc : s'.context = s.context) (hs : s'.size = s.size)
    (hcanvas : s'.canvas = s.canvas) : s.Moves s' :=
  .idles hc hs (by rw [hcanvas]; exact .refl _)

theorem moves_adoptContext (hs : s.Tracks) {context : Context} (hm : context = s.driver.context) :
    s.Moves (s.adoptContext context) := by
  subst hm
  refine .adopts rfl rfl (s.device_adoptContext _) (s.programs_adoptContext _) ?_
  obtain ⟨hc, hcanvas⟩ | ⟨hc, hcanvas⟩ := s.canvas_adoptContext s.driver.context
  all_goals rw [hcanvas]
  · rw [if_pos (Context.coincides_iff.mp hc).1]
  · rw [if_neg]
    · rfl
    · intro he
      rw [Context.coincides_iff.mpr ⟨he, by rw [he]; exact hs.current⟩] at hc
      cases hc

theorem moves_destroy (hi : s.InStep) (size : Size) :
    s.Moves { s with canvas := s.canvas.destroy, size := size } :=
  .destroys hi rfl rfl (Backing.set?_destroy _ _) (Backing.device_destroy _ _)

theorem moves_release (hi : s.InStep) : ReflTransGen Moves s s.release := by
  have hfirst : s.Moves { s with canvas := s.canvas.releasePrograms s.context } :=
    .releases hi rfl rfl rfl
  exact (ReflTransGen.single hfirst).tail (moves_destroy (hfirst.inStep hi) s.size)

theorem moves_applySwapInterval (hs : s.Tracks) : s.Moves s.applySwapInterval :=
  .idles rfl rfl (s.idles_applySwapInterval hs.regular)

theorem moves_settle (hs : s.Tracks) : ReflTransGen Moves s s.settle := by
  rcases s.settle_cases with h | h
  · rw [h]
  · rw [h]
    exact .single (moves_applySwapInterval hs)

theorem moves_setFrameRate (hs : s.Tracks) (rate : Single) :
    ReflTransGen Moves s (s.setFrameRate rate).2 :=
  setFrameRate_induct .refl (fun _ _ => .single (moves_of_canvas_eq rfl rfl rfl))
    fun _ h => h.tail (moves_applySwapInterval (hs.moves h))

theorem moves_apply (hs : s.Tracks) {e : Event} (hm : s.MayApply e) :
    ReflTransGen Moves s (s.apply e) := by
  cases e with
  | adoptContext context => exact .single (moves_adoptContext hs hm)
  | resized size => exact .single (moves_destroy hm size)
  | frameRate rate => exact moves_setFrameRate hs rate
  | teardown => exact moves_release hm

theorem moves_drain (hs : s.Tracks) (hm : s.MayApplyAll s.pending) :
    ReflTransGen Moves s s.drain := by
  -- the events are applied one by one, each to what the ones before have left
  refine (drain_induct (P := fun events s₁ => ReflTransGen Moves s s₁ ∧ s₁.MayApplyAll events)
    ⟨.refl, hm⟩ ?_ ?_).1
  · exact fun _ _ _ h => ⟨h.1.trans (moves_apply (hs.moves h.1) h.2.1), h.2.2⟩
  · exact fun _ h => ⟨h.1.tail (moves_of_canvas_eq rfl rfl rfl), trivial⟩

/-- What an update ensures is deleted and made move by move. -/
theorem moves_ensure (hs : s.Tracks) (hc : s.context = s.driver.context)
    (hsize : s.size.isEmpty = false) {outcome : Except Failure Unit}
    (he : s.onCanvas (s.canvas.ensure s.order s.capabilities) = (outcome, s')) :
    ReflTransGen Moves s s' := by
  obtain ⟨b', e, hb, rfl⟩ := onCanvas_ensure he
  cases hserves : s.canvas.backing.serves s.order with
  | true =>
    rw [Backing.ensure_of_serves hserves] at hb
    cases hb
    exact .refl
  | false =>
    -- the old set goes first, and it belongs to the context
    have hfirst : s.Moves s.discarded := by
      refine .destroys (Or.inr hc) rfl rfl (Backing.set?_discard _ _ _) ?_
      refine (Backing.device_discard _ _ _).trans ?_
      cases hset : s.canvas.backing.set? with
      | none => rfl
      | some set =>
        dsimp only
        rw [(hs.set set hset).1, if_pos (Context.compatible_self _)]
    have hcontext : s.discarded.context = s.discarded.driver.context :=
      hc.trans hfirst.host.context.symm
    refine ReflTransGen.tail (.single hfirst) ?_
    cases outcome with
    | error failure =>
      obtain ⟨hnone, hrest, -⟩ := Backing.restored_of_ensure hs.regular hb
      exact .idles rfl rfl ⟨hnone.trans (Backing.set?_discard _ _ _).symm, rfl, hrest.adds.grows⟩
    | ok =>
      obtain ⟨layout, set, hl, rfl, hmade⟩ := Backing.made_of_ensure hs.regular hserves hb
      have himage := Capabilities.not_isEmpty_of_imageSize? (Order.layout_ok hl).2.1
      exact .fills hcontext rfl rfl rfl (Backing.set?_discard _ _ _) rfl hmade himage hsize

/-- What an update does once the events are applied. -/
theorem moves_drain_update (hs : s.drain.Tracks) (hi : s.drain.InStep) :
    ReflTransGen Moves s.drain s.update.2 := by
  refine update_induct (P := ReflTransGen Moves s.drain) .refl ?_ ?_
  · exact fun _ h => h.tail (moves_applySwapInterval (hs.moves h))
  · intro s₁ s₂ outcome h hn he
    simp only [needsSet, Bool.and_eq_true, Bool.not_eq_true'] at hn
    exact h.trans (moves_ensure (hs.moves h) ((inStep_of_moves h hi).context_eq hn.1.2) hn.2 he)

theorem moves_drain_beginFrame (hs : s.drain.Tracks) (hi : s.drain.InStep) :
    ReflTransGen Moves s.drain s.beginFrame.2 := by
  have hupdate := moves_drain_update hs hi
  obtain ⟨-, hb⟩ | ⟨-, hb⟩ := s.beginFrame_cases
  · rwa [hb]
  · rw [hb]
    exact hupdate.tail (.idles rfl rfl (Canvas.idles_beginFrame (hs.moves hupdate).regular))

/-- Without a set a frame ends with nothing done. -/
theorem moves_endFrame (hs : s.Tracks) (hi : s.InStep) : s.Moves s.endFrame := by
  cases hset : s.canvas.backing.set? with
  | none =>
    exact moves_of_canvas_eq rfl rfl (Canvas.endFrame_of_none hset s.size s.context)
  | some set =>
    obtain ⟨new, hw⟩ := Canvas.works_endFrame hs.regular s.size s.context
    exact .draws (hi.context_eq (hs.set set hset).2) rfl rfl hw

/-- Every operation is a chain of moves. -/
theorem moves_operate (hs : s.Tracks) {op : Operation} (hm : s.May op) :
    ReflTransGen Moves s (s.operate op) := by
  have hr := hs.regular
  cases op with
  | openDrawable host =>
    obtain ⟨hcanvas, hcontext, hsize⟩ := s.openDrawable_eq host
    exact .single (moves_of_canvas_eq hcontext hsize hcanvas)
  | adoptContext context => exact .single (moves_adoptContext hs hm)
  | resize size => exact .single (moves_destroy hm size)
  | setFrameRate rate => exact moves_setFrameRate hs rate
  | send event => exact .single (moves_of_canvas_eq rfl rfl rfl)
  | update =>
    have hdrain := moves_drain hs hm.1
    exact hdrain.trans (moves_drain_update (hs.moves hdrain) hm.2)
  | beginFrame =>
    have hdrain := moves_drain hs hm.1
    exact hdrain.trans (moves_drain_beginFrame (hs.moves hdrain) hm.2)
  | endFrame => exact .single (moves_endFrame hs hm)
  | fill color region =>
    obtain ⟨new, hw⟩ := Canvas.works_fill hr s.context s.size color region
    exact .single (.draws (hm.1.context_eq hm.2) rfl rfl hw)
  | drawTexture patch =>
    obtain ⟨new, hw⟩ := Canvas.works_drawTexture hr s.context s.size patch
    exact .single (.draws (hm.1.context_eq hm.2) rfl rfl hw)
  | readback => exact .single (.idles rfl rfl (Canvas.idles_readback hr))
  | sampleColor x y => exact .single (.idles rfl rfl (Canvas.idles_sampleColor hr s.size x y))
  | sampleDepth x y => exact .single (.idles rfl rfl (Canvas.idles_sampleDepth hr s.size x y))
  | sampleStencil x y => exact .single (.idles rfl rfl (Canvas.idles_sampleStencil hr s.size x y))
  | tearDown host => exact (moves_release hm).tail (moves_of_canvas_eq rfl rfl rfl)

/-- What is known of the contexts is known throughout a run. -/
theorem Run.tracks {app : Surface → Incident → Prop} (h : Run app s) : s.Tracks := by
  induction h with
  | start profile settings policy => exact tracks_start profile settings policy
  | operate _ hm ih => exact ih.moves (moves_operate ih hm)
  | undergo _ _ ih => exact ih.undergo _

end Surface

end Compositor
