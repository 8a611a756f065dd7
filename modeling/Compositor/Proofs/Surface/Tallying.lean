import Compositor.Proofs.Canvas.Tallying
import Compositor.Proofs.Surface.Pacing
import Compositor.Proofs.Trail

/-!
# What a surface counts

Throughout a run in which the application neither copies nor draws below its surface, the counters
of the surface tell the truth: they agree with those of the driver, and every draw that the surface
was asked for is counted once, under what became of it.
-/

namespace Compositor

/-- Whether a copy or a draw is made by somebody other than the surface. -/
def Incident.renders : Incident → Bool
  | .call c => c.isCopy || c.isDraw
  | _ => false

theorem Device.renders_undergo (d : Device) {i : Incident} (hi : i.renders = false) :
    d.Renders (d.undergo i) 0 0 := by
  let other (c : Call) : Prop := c.isCopy = false ∧ c.isDraw = false
  have hstart : d.Confined other d := .refl
  cases i with
  | call c =>
    have hcall : other c := Bool.or_eq_false_iff.mp hi
    exact (hstart.perform hcall).renders fun _ hc => hc
  | attempt what => exact (hstart.attempt what ⟨rfl, rfl⟩).renders fun _ hc => hc
  | compile id source => exact (hstart.compile id source ⟨rfl, rfl⟩).renders fun _ hc => hc
  | _ => exact ⟨rfl, rfl⟩

namespace Surface

variable {s s' s'' : Surface}

/-- Whether an operation asks for a draw. The end of a frame asks for one if there is a set to be
shown. -/
def asksToDraw (s : Surface) : Operation → Bool
  | .fill .. | .drawTexture _ => true
  | .endFrame => s.canvas.backing.isOffscreen
  | _ => false

/-- From `s` to `s'` so many draws were asked for, and what was counted agrees with the driver. -/
def Counts (s s' : Surface) (asked : Nat) : Prop :=
  ∃ copies draws skips, s.canvas.Tallies s'.canvas copies draws skips ∧ draws + skips = asked

theorem counts_of_tallies {copies : Nat} (h : s.canvas.Tallies s'.canvas copies 0 0) :
    s.Counts s' 0 := ⟨copies, 0, 0, h, rfl⟩

theorem Counts.refl (s : Surface) : s.Counts s 0 := counts_of_tallies (.refl s.canvas)

theorem Counts.trans {m n : Nat} (h : s.Counts s' m) (h' : s'.Counts s'' n) :
    s.Counts s'' (m + n) := by
  obtain ⟨copies, draws, skips, ht, rfl⟩ := h
  obtain ⟨copies', draws', skips', ht', rfl⟩ := h'
  exact ⟨_, _, _, ht.trans ht', by omega⟩

/-! ## Operations -/

theorem counts_applySwapInterval (s : Surface) : s.Counts s.applySwapInterval 0 :=
  counts_of_tallies (s.canvas.tallies_performAll _ ⟨rfl, rfl⟩)

theorem counts_release (s : Surface) : s.Counts s.release 0 :=
  counts_of_tallies
    ((s.canvas.tallies_releasePrograms s.context).trans (Canvas.tallies_destroy _))

theorem counts_apply (s : Surface) (e : Event) : s.Counts (s.apply e) 0 := by
  cases e with
  | adoptContext context =>
    have hcanvas : s.canvas.Tallies (s.apply (.adoptContext context)).canvas 0 0 0 := by
      rw [apply]
      obtain ⟨-, hc⟩ | ⟨-, hc⟩ := s.canvas_adoptContext context
      all_goals rw [hc]
      · exact .refl _
      · exact Canvas.tallies_of_renders rfl (.refl _)
    exact counts_of_tallies hcanvas
  | resized size => exact counts_of_tallies s.canvas.tallies_destroy
  | frameRate rate =>
    exact setFrameRate_induct (P := fun s₁ => s.Counts s₁ 0) (.refl s) (fun _ _ => .refl s)
      fun s₁ h => h.trans s₁.counts_applySwapInterval
  | teardown => exact s.counts_release

theorem counts_drain (s : Surface) : s.Counts s.drain 0 := by
  refine drain_induct (P := fun _ s₁ => s.Counts s₁ 0) (.refl s) ?_ ?_
  · exact fun e _ s₁ h => h.trans (s₁.counts_apply e)
  · exact fun _ h => h

theorem counts_update (s : Surface) : s.Counts s.update.2 0 := by
  refine update_induct (P := fun s₁ => s.Counts s₁ 0) s.counts_drain ?_ ?_
  · exact fun s₁ h => h.trans s₁.counts_applySwapInterval
  · intro s₁ s₂ outcome h _ he
    have htallies := s₁.canvas.tallies_ensure s₁.order s₁.capabilities
    rw [show (s₁.canvas.ensure s₁.order s₁.capabilities).2 = s₂.canvas from
      congrArg (fun r => r.2.canvas) he] at htallies
    exact h.trans (counts_of_tallies htallies)

theorem counts_beginFrame (s : Surface) : s.Counts s.beginFrame.2 0 := by
  have hupdate := s.counts_update
  obtain ⟨-, hb⟩ | ⟨-, hb⟩ := s.beginFrame_cases
  all_goals rw [hb]
  · exact hupdate
  · exact hupdate.trans (counts_of_tallies s.update.2.canvas.tallies_beginFrame)

/-- A draw that was asked for is counted once. -/
theorem counts_of_scores {count : CanvasStatistics → CanvasStatistics} {r : Bool × Canvas}
    (h : s.canvas.Scores count r)
    (hcount : ∀ t, (count t).resolves = t.resolves ∧ (count t).drawn = t.drawn + 1 ∧
      (count t).skipped = t.skipped) : s.Counts { s with canvas := r.2 } 1 :=
  ⟨_, _, _, h.tallies hcount, by cases r.1 <;> rfl⟩

/-- Every operation counts the draw that it asks for, if it does. -/
theorem counts_operate (s : Surface) (op : Operation) :
    s.Counts (s.operate op) (s.asksToDraw op).toNat := by
  cases op with
  | openDrawable host =>
    unfold operate openDrawable
    dsimp only
    split <;> exact .refl s
  | adoptContext context => exact s.counts_apply (.adoptContext context)
  | resize size => exact s.counts_apply (.resized size)
  | setFrameRate rate => exact s.counts_apply (.frameRate rate)
  | send event => exact .refl s
  | update => exact s.counts_update
  | beginFrame => exact s.counts_beginFrame
  | endFrame => exact s.canvas.tallies_endFrame s.size s.context
  | fill color region =>
    exact counts_of_scores (s.canvas.scores_fill s.context s.size color region)
      fun t => ⟨rfl, by simp only [CanvasStatistics.drawn]; omega, rfl⟩
  | drawTexture patch =>
    exact counts_of_scores (s.canvas.scores_drawTexture s.context s.size patch)
      fun t => ⟨rfl, by simp only [CanvasStatistics.drawn]; omega, rfl⟩
  | readback =>
    obtain ⟨copies, hread⟩ := s.canvas.tallies_readback
    exact counts_of_tallies hread
  | sampleColor x y =>
    exact counts_of_tallies (s.canvas.tallies_sample s.size x y fun _ row =>
      ⟨.readColor x row, rfl, rfl, rfl⟩)
  | sampleDepth x y =>
    exact counts_of_tallies (s.canvas.tallies_sample s.size x y fun _ row =>
      ⟨.readDepth x row, rfl, rfl, rfl⟩)
  | sampleStencil x y =>
    exact counts_of_tallies (s.canvas.tallies_sample s.size x y fun _ row =>
      ⟨.readStencil x row, rfl, rfl, rfl⟩)
  | tearDown host => exact s.counts_release

/-! ## Runs -/

/-- The surface after something that happens to it. -/
def act (s : Surface) : Act → Surface
  | .operate op => s.operate op
  | .undergo incident => s.undergo incident

/-- Whether a copy or a draw is made by somebody other than the surface. -/
def Act.renders : Act → Bool
  | .operate _ => false
  | .undergo incident => incident.renders

/-- Whether the surface is asked for a draw in a step of a run. -/
def asks (e : Surface × Act) : Bool :=
  match e.2 with
  | .operate op => e.1.asksToDraw op
  | .undergo _ => false

/-- The counters agree with those of the driver. -/
structure Tallied (s : Surface) : Prop where
  resolves : s.canvas.statistics.resolves = s.driver.statistics.copies
  drawn : s.canvas.statistics.drawn = s.driver.statistics.draws

theorem Counts.tallied {n : Nat} (h : s.Counts s' n) (hs : s.Tallied) : s'.Tallied := by
  obtain ⟨copies, draws, skips, ht, -⟩ := h
  have hcopies : s'.driver.statistics.copies = s.driver.statistics.copies + copies :=
    ht.device.copies
  have hdraws : s'.driver.statistics.draws = s.driver.statistics.draws + draws := ht.device.draws
  exact ⟨by rw [ht.resolves, hs.resolves, hcopies], by rw [ht.drawn, hs.drawn, hdraws]⟩

/-- The draws that were counted, done or left out. -/
def counted (s : Surface) : Nat := s.canvas.statistics.drawn + s.canvas.statistics.skipped

theorem Counts.counted {n : Nat} (h : s.Counts s' n) : s'.counted = s.counted + n := by
  obtain ⟨copies, draws, skips, ht, rfl⟩ := h
  rw [Surface.counted, Surface.counted, ht.drawn, ht.skipped]
  omega

theorem Tallied.act (h : s.Tallied) {a : Act} (ha : a.renders = false) : (s.act a).Tallied := by
  cases a with
  | operate op => exact (s.counts_operate op).tallied h
  | undergo incident =>
    have hrenders := s.canvas.device.renders_undergo ha
    have hcounts : s.Counts (s.undergo incident) 0 :=
      counts_of_tallies (Canvas.tallies_of_renders rfl hrenders)
    exact hcounts.tallied h

/-- What the surface counts goes up exactly with the draws that it is asked for. -/
theorem counted_act (s : Surface) (a : Act) :
    (s.act a).counted = s.counted + (asks (s, a)).toNat := by
  cases a with
  | operate op => exact (s.counts_operate op).counted
  | undergo incident => rfl

/-- Throughout every run in which nobody else copies or draws, the resolves of a surface are the
copies of its driver, what it counts as presented, filled or drawn are the draws of its driver, and
with those that were left out they are all draws that it was asked for. A fill or a draw of a
texture says truly whether it is among those done. -/
theorem tallied_of_acts (profile : Profile) (settings : Settings) (policy : Policy)
    {acts : List Act} (hacts : ∀ a ∈ acts, a.renders = false) :
    let s := acts.foldl act (withPolicy profile settings policy)
    let t := s.canvas.statistics
    t.resolves = s.driver.statistics.copies ∧
      t.presents + t.fills + t.textureDraws = s.driver.statistics.draws ∧
      (trail act (withPolicy profile settings policy) acts).countP asks =
        t.presents + t.fills + t.textureDraws + t.skipped ∧
      (∀ color region, (s.fill color region).1 = true ↔
        (s.fill color region).2.canvas.statistics.fills = t.fills + 1) ∧
      ∀ patch, (s.drawTexture patch).1 = true ↔
        (s.drawTexture patch).2.canvas.statistics.textureDraws = t.textureDraws + 1 := by
  intro s t
  have htallied : s.Tallied := by
    refine List.foldlRecOn acts _ (motive := Tallied) ⟨rfl, rfl⟩ ?_
    intro s hs a ha
    exact hs.act (hacts a ha)
  have hcounted :
      s.counted = 0 + (trail act (withPolicy profile settings policy) acts).countP asks :=
    count_trail (P := fun _ => True) (fun _ _ _ => trivial) (fun s a _ => s.counted_act a)
      trivial acts
  rw [Nat.zero_add] at hcounted
  refine ⟨htallied.resolves, htallied.drawn, hcounted.symm, ?_, ?_⟩
  · intro color region
    exact (s.canvas.scores_fill s.context s.size color region).answer
      (f := CanvasStatistics.fills) (fun _ => rfl) fun _ => rfl
  · intro patch
    exact (s.canvas.scores_drawTexture s.context s.size patch).answer
      (f := CanvasStatistics.textureDraws) (fun _ => rfl) fun _ => rfl

/-- A frame with a fill and a readback, after which nothing can be made any more, so that the frame
is not shown: two copies, one draw, and one draw left out. -/
theorem tallied_of_spoiled_frame :
    let start := withPolicy .full .standard .always
    let red : Rgba := ⟨Numeric.Binary.ofNat 1, 0, 0, Numeric.Binary.ofNat 1⟩
    let acts : List Act :=
      [.operate (.adoptContext (.live 1)), .operate (.resize ⟨4, 4⟩), .operate .beginFrame,
        .operate (.fill red (.ofSize 4 4)), .undergo (.call (.clear .depthStencil)),
        .operate .readback, .undergo (.setFaults ⟨fun _ => true, fun _ => true⟩),
        .operate .endFrame]
    let s := acts.foldl act start
    (∀ a ∈ acts, a.renders = false) ∧ s.canvas.statistics = ⟨2, 0, 1, 0, 1⟩ ∧
      s.driver.statistics.copies = 2 ∧ s.driver.statistics.draws = 1 ∧
      (trail act start acts).countP asks = 2 := by
  intro start red acts s
  have hacts : ∀ a ∈ acts, a.renders = false := by
    simp [acts, Act.renders, Incident.renders, Call.isCopy, Call.isDraw]
  have hcounts : s.canvas.statistics = ⟨2, 0, 1, 0, 1⟩ := by decide +kernel
  obtain ⟨hcopies, hdraws, hasked, -, -⟩ := tallied_of_acts .full .standard .always hacts
  refine ⟨hacts, hcounts, ?_, ?_, ?_⟩
  · rw [← hcopies, hcounts]
  · rw [← hdraws, hcounts]
    rfl
  · rw [hasked, hcounts]
    rfl

end Surface

end Compositor
