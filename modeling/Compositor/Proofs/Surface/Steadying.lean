import Compositor.Command.Frames
import Compositor.Proofs.Canvas.Counting
import Compositor.Proofs.Surface.Reading

/-!
# Runs of frames

What a run of empty frames on a new device comes to, however long it is. The first frame makes the
set and builds the program that shows it; every further one finds both, and resolves and presents
once more.
-/

namespace Compositor

namespace Settings

/-- Whether a surface under the policy of the settings draws offscreen. -/
def drawsOffscreen (c : Settings) : Bool := c.policy.decide c.platform c.antialias.toNat .none

/-- What such a surface asks its host for. -/
def request (c : Settings) : DrawableRequest := .ofNeed c.antialias.toNat c.drawsOffscreen

end Settings

namespace Surface

variable {s s₁ s' : Surface} {layout : Layout} {n : Nat}

theorem drain_of_pending (h : s.pending = []) : s.drain = s := by
  cases s
  subst h
  rfl

/-- What an update does when no event waits. -/
theorem update_of_pending (h : s.pending = []) :
    s.update =
      if s.needsSet then
        s.settle.onCanvas (s.settle.canvas.ensure s.settle.order s.settle.capabilities)
      else (.ok (), s.settle) := by
  rw [update_eq, drain_of_pending h, needsSet_settle]

theorem costs_applySwapInterval (s : Surface) :
    s.canvas.device.Costs s.applySwapInterval.canvas.device 0 0 :=
  s.canvas.device.costs_performAll (by simp [Call.isFree])

/-! ## Frames on the display -/

/-- The surface has no set and did no work. -/
structure Unused (s : Surface) : Prop where
  pending : s.pending = []
  set : s.canvas.backing.set? = none
  statistics : s.canvas.statistics = ⟨0, 0, 0, 0, 0⟩
  allocations : s.driver.statistics.bufferAllocations = 0
  links : s.driver.statistics.links = 0

namespace Unused

theorem applySwapInterval (h : s.Unused) : s.applySwapInterval.Unused where
  pending := h.pending
  set := h.set
  statistics := h.statistics
  allocations := s.costs_applySwapInterval.allocations.trans h.allocations
  links := s.costs_applySwapInterval.links.trans h.links

theorem settle (h : s.Unused) : s.settle.Unused := by
  rcases s.settle_cases with hs | hs
  all_goals rw [hs]
  · exact h
  · exact h.applySwapInterval

/-- A frame that needs no set does not do any work. -/
theorem frame (h : s.Unused) (hn : s.needsSet = false) :
    ∃ s', s.frame (fun s => ((), s)) = (.ok (), s') ∧ s'.Unused ∧ s'.needsSet = false := by
  have hu := update_of_pending h.pending
  rw [hn, if_neg Bool.false_ne_true] at hu
  have h₁ := h.settle
  -- without a set neither end of the frame does anything
  have hbegin : s.settle.canvas.beginFrame = s.settle.canvas := by
    rw [Canvas.beginFrame, h₁.set]
  have hend : s.settle.canvas.endFrame s.settle.size s.settle.context = s.settle.canvas := by
    rw [Canvas.endFrame, h₁.set]
  refine ⟨{ s.settle with inFrame := false }, ?_,
    ⟨h₁.pending, h₁.set, h₁.statistics, h₁.allocations, h₁.links⟩, s.needsSet_settle.trans hn⟩
  rw [Surface.frame, Surface.beginFrame, hu]
  dsimp only
  rw [hbegin, Surface.endFrame]
  dsimp only
  rw [hend]

theorem frames (h : s.Unused) (hn : s.needsSet = false) (n : Nat) :
    ∃ s', s.frames n = (.ok (), s') ∧ s'.Unused := by
  induction n generalizing s with
  | zero => exact ⟨s, rfl, h⟩
  | succ n ih =>
    obtain ⟨s', hframe, h', hn'⟩ := h.frame hn
    obtain ⟨s'', hframes, h''⟩ := ih h' hn'
    refine ⟨s'', ?_, h''⟩
    rw [Surface.frames, hframe]
    exact hframes

end Unused

/-! ## Frames on a set -/

/-- The surface has its set, of the given layout, and `n` frames were drawn on it. -/
structure Equipped (s : Surface) (layout : Layout) (n : Nat) : Prop where
  pending : s.pending = []
  needs : s.needsSet = true
  set : ∃ set, s.canvas.backing.set? = some set ∧ set.order = s.order ∧ set.layout = layout ∧
    set.multisample.isSome = layout.isMultisample
  obliging : s.canvas.IsObliging
  statistics : s.canvas.statistics = ⟨if layout.isMultisample then n else 0, n, 0, 0, 0⟩
  allocations : s.driver.statistics.bufferAllocations = layout.partCount
  /-- The only program that is built is the one that shows the texture. -/
  links : s.driver.statistics.links =
    (s.canvas.programs.usable? (.textured .texture2d) s.context).isSome.toNat
  built : 0 < n → (s.canvas.programs.usable? (.textured .texture2d) s.context).isSome = true

/-- The set is made where nothing goes wrong. -/
theorem Unused.ensure (h : s.Unused) (hn : s.needsSet = true) (ho : s.canvas.IsObliging)
    (hf : s.canvas.device.IsFaultless)
    (hp : s.canvas.programs.usable? (.textured .texture2d) s.context = none)
    (hl : s.order.layout s.capabilities = .ok layout) :
    ∃ s', s.onCanvas (s.canvas.ensure s.order s.capabilities) = (.ok (), s') ∧
      s'.Equipped layout 0 := by
  obtain ⟨set, e, he, hmade⟩ := Backing.ensure_of_isFaultless ho.regular hf h.set hl
  obtain ⟨hallocations, hlinks⟩ := Backing.costs_ensure h.set hl he
  refine ⟨{ s with canvas := { s.canvas with backing := .ready set .fresh, device := e } }, ?_, ?_⟩
  · rw [onCanvas, Canvas.ensure, he]
  · refine ⟨h.pending, hn, ⟨set, rfl, hmade.order, hmade.layout, ?_⟩, ?_, ?_, ?_, ?_, ?_⟩
    · rw [← hmade.layout]
      exact hmade.multisample
    · exact ⟨hmade.grows.regular ho.regular, ho.device.congr hmade.grows.host.faults hmade.pretence,
        ho.programs⟩
    · show s.canvas.statistics = _
      rw [h.statistics, ite_self]
    · refine hallocations.trans ?_
      rw [show s.canvas.device.driver.statistics.bufferAllocations = 0 from h.allocations,
        Nat.zero_add]
    · refine hlinks.trans ?_
      rw [hp]
      exact h.links
    · exact fun h => absurd h (Nat.lt_irrefl 0)

theorem Equipped.applySwapInterval (h : s.Equipped layout n) :
    s.applySwapInterval.Equipped layout n where
  pending := h.pending
  needs := h.needs
  set := h.set
  obliging := h.obliging.performAll _
  statistics := h.statistics
  allocations := s.costs_applySwapInterval.allocations.trans h.allocations
  links := s.costs_applySwapInterval.links.trans h.links
  built := h.built

theorem Equipped.settle (h : s.Equipped layout n) : s.settle.Equipped layout n := by
  rcases s.settle_cases with hs | hs
  all_goals rw [hs]
  · exact h
  · exact h.applySwapInterval

/-- An update finds the set. -/
theorem Equipped.update (h : s.Equipped layout n) :
    ∃ s₁, s.update = (.ok (), s₁) ∧ s₁.Equipped layout n := by
  have hu := update_of_pending h.pending
  obtain ⟨set, hset, horder, -⟩ := h.settle.set
  have hserves : s.settle.canvas.backing.serves s.settle.order = true := by
    rw [Backing.serves, hset, Option.any_some, horder]
    simp [Order.isServedBy, Context.compatible_self]
  rw [h.needs, if_pos rfl, Canvas.ensure, Backing.ensure_of_serves hserves] at hu
  exact ⟨s.settle, hu, h.settle⟩

theorem Equipped.beginFrame (h : s.Equipped layout n) : s.begun.Equipped layout n := by
  have hbegun := Canvas.idles_beginFrame h.obliging.regular
  obtain ⟨hstatistics, hprograms⟩ := s.canvas.books_beginFrame
  obtain ⟨hallocations, hlinks⟩ := s.canvas.costs_beginFrame
  obtain ⟨set, hset, hsuits⟩ := h.set
  refine ⟨h.pending, h.needs, ⟨set, hbegun.set.trans hset, hsuits⟩, h.obliging.beginFrame,
    hstatistics.trans h.statistics, hallocations.trans h.allocations, ?_, ?_⟩
  all_goals
    simp only [begun]
    rw [hprograms]
  · exact hlinks.trans h.links
  · exact h.built

/-- The end of a frame resolves and presents, and from then on the program is there. -/
theorem Equipped.endFrame {set : BufferSet} (h : s.Equipped layout n)
    (hd : s.Underway set set.target s.driver.display) : s.endFrame.Equipped layout (n + 1) := by
  have hobliging := h.obliging.endFrame s.size s.context
  have hf := hobliging.programs (.textured .texture2d)
  obtain ⟨hsize, hshown⟩ := hd.run.sound.size set hd.backed
  obtain ⟨fill, -, hpresents⟩ := hd.presents hf
  have hasks : s.canvas.Asks s.endFrame.canvas (.textured .texture2d) s.context :=
    Canvas.asks_endFrame hd.backed hsize hshown hf
  obtain ⟨⟨hallocations, hlinks⟩, husable⟩ := hasks
  obtain ⟨new, hworks⟩ := Canvas.works_endFrame h.obliging.regular s.size s.context
  obtain ⟨set', hset, horder, hlayout, hmultisample⟩ := h.set
  obtain rfl : set' = set := Option.some.inj (hset.symm.trans hd.backed)
  refine ⟨h.pending, h.needs, ⟨set', hworks.set.trans hset, horder, hlayout, hmultisample⟩,
    hobliging, ?_, hallocations.trans h.allocations, ?_, fun _ => husable⟩
  · rw [hpresents.statistics, h.statistics, hmultisample]
    cases layout.isMultisample <;> rfl
  · -- the program was there, or it is linked now
    have husable' : (s.endFrame.canvas.programs.usable? (.textured .texture2d)
        s.endFrame.context).isSome = true := husable
    rw [husable']
    refine hlinks.trans ?_
    rw [show s.canvas.device.driver.statistics.links = _ from h.links]
    cases (s.canvas.programs.usable? (.textured .texture2d) s.context).isSome <;> rfl

/-- A frame that can begin on a set. -/
theorem Equipped.frame (h₁ : s₁.Equipped layout n) (hrun : Run (fun _ _ => False) s)
    (hi : s.InStep) (hp : s.pending = []) (hu : s.update = (.ok (), s₁)) :
    ∃ s', s.frame (fun s => ((), s)) = (.ok (), s') ∧ s'.Equipped layout (n + 1) ∧
      Run (fun _ _ => False) s' ∧ s'.InStep := by
  have hb : s.beginFrame = (.ok (), s₁.begun) := by rw [Surface.beginFrame, hu, begun]
  have hm : s.May .beginFrame := by
    refine ⟨?_, ?_⟩
    · rw [hp]
      trivial
    · rw [drain_of_pending hp]
      exact hi
  have h₂ : s₁.begun.Equipped layout n := h₁.beginFrame
  obtain ⟨set, hset, -⟩ := h₂.set
  have hunder := underway_beginFrame (hrun.mono fun _ _ => False.elim) hm hb hset
  have hrun₂ : Run (fun _ _ => False) s₁.begun := by
    have hbegun := hrun.beginFrame hm
    rwa [hb] at hbegun
  have hend : s₁.begun.May .endFrame := hunder.inStep
  exact ⟨s₁.begun.endFrame, by rw [Surface.frame, hb], h₂.endFrame hunder, hrun₂.operate hend,
    inStep_of_moves (moves_operate hrun₂.tracks hend) hunder.inStep⟩

/-- Further frames find the set and the program. -/
theorem Equipped.frames (h : s.Equipped layout n) (hrun : Run (fun _ _ => False) s)
    (hi : s.InStep) (m : Nat) :
    ∃ s', s.frames m = (.ok (), s') ∧ s'.Equipped layout (n + m) := by
  induction m generalizing s n with
  | zero => exact ⟨s, rfl, h⟩
  | succ m ih =>
    obtain ⟨s₁, hu, h₁⟩ := h.update
    obtain ⟨s₂, hframe, h₂, hrun₂, hi₂⟩ := h₁.frame hrun hi h.pending hu
    obtain ⟨s', hframes, h'⟩ := ih h₂ hrun₂ hi₂
    refine ⟨s', ?_, ?_⟩
    · rw [Surface.frames, hframe]
      exact hframes
    · rw [show n + (m + 1) = n + 1 + m by omega]
      exact h'

/-! ## New surfaces -/

/-- A new surface that was given a drawable, then the context, then its size. -/
def opened (profile : Profile) (settings : Settings) (size : Size) : Surface :=
  (((withPolicy profile settings settings.policy).operate (.openDrawable .idle)).operate
    (.adoptContext (.live 1))).operate (.resize size)

variable (profile : Profile) (settings : Settings) (size : Size)

theorem run_opened : Run (fun _ _ => False) (opened profile settings size) := by
  have hstart : Run (fun _ _ => False) (withPolicy profile settings settings.policy) :=
    .start profile settings settings.policy
  have hdrawable : Run (fun _ _ => False)
      ((withPolicy profile settings settings.policy).operate (.openDrawable .idle)) :=
    hstart.operate (Or.inl rfl)
  have hadopted : Run (fun _ _ => False) (((withPolicy profile settings settings.policy).operate
      (.openDrawable .idle)).operate (.adoptContext (.live 1))) := hdrawable.operate rfl
  exact hadopted.operate (Or.inr rfl)

theorem inStep_opened : (opened profile settings size).InStep := Or.inr rfl

theorem needsSet_opened :
    (opened profile settings size).needsSet = (settings.drawsOffscreen && !size.isEmpty) :=
  congrArg (· && !size.isEmpty) (Bool.and_true _)

variable {profile settings size}

theorem unused_opened : (opened profile settings size).Unused := ⟨rfl, rfl, rfl, rfl, rfl⟩

/-- The first update makes the set. -/
theorem equipped_opened (hn : (opened profile settings size).needsSet = true)
    (hl : (opened profile settings size).order.layout profile.capabilities = .ok layout) :
    ∃ s₁, (opened profile settings size).update = (.ok (), s₁) ∧ s₁.Equipped layout 0 := by
  have ho := (run_opened profile settings size).isObliging ⟨rfl, rfl⟩ fun _ _ => rfl
  rw [update_of_pending rfl, hn, if_pos rfl]
  exact unused_opened.settle.ensure hn (ho.performAll _) ⟨fun _ => rfl, nofun⟩ rfl hl

/-- However many frames follow the first one. -/
theorem frames_opened (hn : (opened profile settings size).needsSet = true)
    (hl : (opened profile settings size).order.layout profile.capabilities = .ok layout) (m : Nat) :
    ∃ s', (opened profile settings size).frames (m + 1) = (.ok (), s') ∧
      s'.Equipped layout (m + 1) := by
  obtain ⟨s₁, hu, h₁⟩ := equipped_opened hn hl
  obtain ⟨s₂, hframe, h₂, hrun₂, hi₂⟩ := h₁.frame (run_opened profile settings size)
    (inStep_opened profile settings size) rfl hu
  obtain ⟨s', hframes, h'⟩ := h₂.frames hrun₂ hi₂ m
  refine ⟨s', ?_, ?_⟩
  · rw [Surface.frames, hframe]
    exact hframes
  · rwa [show 0 + 1 + m = m + 1 by omega] at h'

/-- Without a layout there is no first frame. -/
theorem frame_opened_error {failure : Failure}
    (hn : (opened profile settings size).needsSet = true)
    (hl : (opened profile settings size).order.layout profile.capabilities = .error failure) :
    ∃ s', (opened profile settings size).frame (fun s => ((), s)) = (.error failure, s') := by
  have hu := update_of_pending (s := opened profile settings size) rfl
  have hl' : (opened profile settings size).settle.order.layout
      (opened profile settings size).settle.capabilities = .error failure := hl
  have hs : (opened profile settings size).settle.canvas.backing.serves
      (opened profile settings size).settle.order = false := rfl
  rw [hn, if_pos rfl, Canvas.ensure, Backing.ensure_of_not_serves hs, hl'] at hu
  exact ⟨_, by rw [Surface.frame, Surface.beginFrame, hu]; rfl⟩

end Surface

end Compositor
