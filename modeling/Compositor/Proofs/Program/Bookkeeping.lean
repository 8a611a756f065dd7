import Compositor.Proofs.Program.Service

/-!
# What a cache of programs answers for

However its device fails, a cache tries once to build a program in a period, which ends when the
cache is released or the context is lost. It has made no objects but those of the programs that it
gives, and after a release none of these is left. Its statistics account for every request.
-/

namespace Compositor

namespace CacheStatistics

variable {α : Type} (s : CacheStatistics) (outcome : Except Failure α)

@[simp] theorem builds_countBuild : (s.countBuild outcome).builds = s.builds + 1 := by
  unfold countBuild
  split <;> rfl

@[simp] theorem hits_countBuild : (s.countBuild outcome).hits = s.hits := by
  unfold countBuild
  split <;> rfl

/-- At most one more failure is counted. -/
theorem failures_countBuild : (s.countBuild outcome).compileFailures +
    (s.countBuild outcome).linkFailures ≤ s.compileFailures + s.linkFailures + 1 := by
  unfold countBuild
  split <;> dsimp only <;> omega

end CacheStatistics

namespace Workshop

/-- Whether the step asks for the program for a purpose. -/
def Step.asks (purpose : Purpose) : Step → Bool
  | ask other => other = purpose
  | _ => false

/-- Whether the step asks for a program. -/
def Step.isAsk : Step → Bool
  | ask _ => true
  | _ => false

/-- The step asks for the program for a purpose, and an attempt to build it is counted. -/
def builds (purpose : Purpose) (e : Workshop × Step) : Bool :=
  e.2.asks purpose &&
    e.1.programs.statistics.builds < (e.1.step e.2).programs.statistics.builds

variable {s t : Workshop} {purpose : Purpose} {b : BuiltProgram}

/-! ## Statistics -/

/-- What a request adds to the statistics. -/
theorem Asked.statistics {entry : CachedProgram} (h : s.Asked purpose entry t) :
    t.programs.statistics.builds = s.programs.statistics.builds +
        (decide (s.programs.usable? purpose s.context = none)).toNat ∧
      t.programs.statistics.builds + t.programs.statistics.hits =
        s.programs.statistics.builds + s.programs.statistics.hits + 1 ∧
      t.programs.statistics.compileFailures + t.programs.statistics.linkFailures +
          s.programs.statistics.builds ≤
        s.programs.statistics.compileFailures + s.programs.statistics.linkFailures +
          t.programs.statistics.builds := by
  cases h with
  | found hu _ _ hstatistics =>
    rw [hstatistics, hu]
    refine ⟨rfl, ?_, ?_⟩ <;> dsimp only <;> omega
  | @built b _ _ hu _ _ _ hp =>
    have := s.programs.statistics.failures_countBuild (.ok b : Except Failure BuiltProgram)
    rw [hp, hu]
    refine ⟨?_, ?_, ?_⟩ <;> simp [ProgramCache.insert] at this ⊢ <;> omega
  | @failed failure _ hu _ hp =>
    have := s.programs.statistics.failures_countBuild (.error failure : Except Failure BuiltProgram)
    rw [hp, hu]
    refine ⟨?_, ?_, ?_⟩ <;> simp [ProgramCache.insert] at this ⊢ <;> omega

/-- Every request is counted, and no more failures than attempts to build. -/
theorem Sound.statistics_step (h : s.Sound) (a : Step) :
    (s.step a).programs.statistics.builds + (s.step a).programs.statistics.hits =
        s.programs.statistics.builds + s.programs.statistics.hits + a.isAsk.toNat ∧
      (s.step a).programs.statistics.compileFailures +
          (s.step a).programs.statistics.linkFailures + s.programs.statistics.builds ≤
        s.programs.statistics.compileFailures + s.programs.statistics.linkFailures +
          (s.step a).programs.statistics.builds := by
  cases a with
  | ask purpose => exact (asked h.regular purpose).statistics.2
  | release => exact ⟨rfl, Nat.le_refl _⟩
  | undergo i => exact ⟨rfl, Nat.le_refl _⟩

theorem counted_run (profile : Profile) (steps : List Step) :
    (run profile steps).programs.statistics.builds +
        (run profile steps).programs.statistics.hits = steps.countP (·.isAsk) := by
  have hcount := count_trail (P := Sound) (fun _ a h => h.step a)
    (f := fun s => s.programs.statistics.builds + s.programs.statistics.hits)
    (p := fun e => e.2.isAsk) (fun _ a h => (h.statistics_step a).1) (sound_start profile) steps
  calc (run profile steps).programs.statistics.builds +
        (run profile steps).programs.statistics.hits
      = 0 + (trail step (start profile) steps).countP (fun e => e.2.isAsk) := hcount
    _ = ((trail step (start profile) steps).map Prod.snd).countP (·.isAsk) := by
        rw [Nat.zero_add, List.countP_map]
        rfl
    _ = steps.countP (·.isAsk) := by rw [map_snd_trail]

theorem failures_run (profile : Profile) (steps : List Step) :
    (run profile steps).programs.statistics.compileFailures +
        (run profile steps).programs.statistics.linkFailures ≤
      (run profile steps).programs.statistics.builds := by
  let Kept (s : Workshop) : Prop := s.Sound ∧ s.programs.statistics.compileFailures +
    s.programs.statistics.linkFailures ≤ s.programs.statistics.builds
  suffices h : Kept (run profile steps) from h.2
  refine List.foldlRecOn (motive := Kept) steps _ ⟨sound_start profile, Nat.le_refl _⟩ ?_
  intro s h a _
  refine ⟨h.1.step a, ?_⟩
  have hstep := (h.1.statistics_step a).2
  have := h.2
  omega

/-! ## Once in a period -/

/-- An attempt to build is counted when no entry can be used. -/
theorem Sound.builds_iff (h : s.Sound) (a : Step) :
    builds purpose (s, a) = true ↔
      a.asks purpose = true ∧ s.programs.usable? purpose s.context = none := by
  cases a with
  | ask other =>
    have hbuilds : (s.step (.ask other)).programs.statistics.builds =
        s.programs.statistics.builds +
          (decide (s.programs.usable? other s.context = none)).toNat :=
      (asked h.regular other).statistics.1
    simp only [builds, hbuilds, Step.asks, Bool.and_eq_true, decide_eq_true_eq]
    refine and_congr_right fun ho => ?_
    rw [ho]
    cases s.programs.usable? purpose s.context <;> simp
  | release => simp [builds, Step.asks]
  | undergo i => simp [builds, Step.asks]

/-- While an entry can be used nothing is built for its purpose. -/
theorem Sound.no_builds (h : s.Sound) {steps : List Step} (hsteps : ∀ a ∈ steps, a.ends = false)
    {entry : CachedProgram} (hu : s.programs.usable? purpose s.context = some entry) :
    (trail Workshop.step s steps).countP (builds purpose) = 0 := by
  induction steps generalizing s with
  | nil => rfl
  | cons a steps ih =>
    obtain ⟨ha, hrest⟩ := List.forall_mem_cons.mp hsteps
    rw [trail, List.countP_cons_of_neg, ih (h.step a) hrest (h.usable?_step ha hu)]
    rw [h.builds_iff, hu]
    exact fun hb => Option.some_ne_none _ hb.2

/-- In a period nothing is built twice, whether that succeeded or not. -/
theorem Sound.builds_once (h : s.Sound) {steps : List Step} (hsteps : ∀ a ∈ steps, a.ends = false)
    (purpose : Purpose) : (trail Workshop.step s steps).countP (builds purpose) ≤ 1 := by
  induction steps generalizing s with
  | nil => exact Nat.zero_le 1
  | cons a steps ih =>
    obtain ⟨ha, hrest⟩ := List.forall_mem_cons.mp hsteps
    rw [trail]
    by_cases hb : builds purpose (s, a) = true
    · -- from here on the outcome is found in the cache
      have hasks := ((h.builds_iff a).mp hb).1
      obtain rfl : a = .ask purpose := by
        cases a with
        | ask other => rw [of_decide_eq_true hasks]
        | release => cases hasks
        | undergo i => cases hasks
      have hfound := h.usable?_ask purpose
      have hlater := (h.step (.ask purpose)).no_builds hrest hfound
      rw [List.countP_cons_of_pos hb]
      omega
    · rw [List.countP_cons_of_neg hb]
      exact ih (h.step a) hrest

/-! ## What is left -/

/-- The objects of a program are live only as long as the cache holds it in the current context. -/
structure Settled (s : Workshop) (b : BuiltProgram) : Prop where
  named : ∀ x ∈ b.handles, x.name ≤ s.device.driver.objects.issued
  held : ∀ x ∈ b.handles, s.device.Live x → b ∈ s.programs.owned s.context

theorem Settled.step (hb : s.Settled b) (h : s.Sound) (a : Step) : (s.step a).Settled b := by
  -- no object comes to life under an old name, so all turns on what the cache holds
  have keep (hedits : s.device.driver.objects.Edits (s.step a).device.driver.objects)
      (howned : ∀ x ∈ b.handles, (s.step a).device.Live x → b ∈ s.programs.owned s.context →
        b ∈ (s.step a).programs.owned (s.step a).context) : (s.step a).Settled b :=
    ⟨fun x hx => Nat.le_trans (hb.named x hx) hedits.issued_le, fun x hx hl =>
      howned x hx hl (hb.held x hx (hedits.live_of_live hl (hb.named x hx)))⟩
  cases a with
  | ask purpose =>
    have hasked := asked h.regular purpose
    obtain ⟨new, hg, -, -⟩ := hasked.grows
    have hcontext : (s.ask purpose).2.context = s.context := hg.host.context
    refine keep hg.edits fun x hx _ howned => ?_
    obtain ⟨q, hq⟩ := ProgramCache.mem_owned_iff.mp howned
    refine ProgramCache.mem_owned_iff.mpr ⟨q, ?_⟩
    show (s.ask purpose).2.programs.cached? q = some ⟨(s.ask purpose).2.context, .ok b⟩
    rw [hcontext]
    exact hasked.cached?_of_usable? (h.usable?_eq_some_iff.mpr ⟨hq, rfl⟩)
  | release =>
    have hdrops := h.drops_release
    refine keep hdrops.edits fun x hx hl howned => ?_
    -- what was held is deleted
    have hgone := ((hdrops.live x).mp hl).2
    exact absurd (List.mem_flatMap.mpr ⟨b, howned, hx⟩) hgone
  | undergo i =>
    cases hloss : i.isLoss with
    | false =>
      obtain ⟨hedits, hcontext, -⟩ := s.device.undergo_of_not_isLoss hloss
      refine keep hedits fun x hx _ howned => ?_
      show b ∈ s.programs.owned (s.device.undergo i).driver.context
      rwa [hcontext]
    | true =>
      obtain rfl := Incident.eq_loseContext hloss
      exact ⟨hb.named, fun x _ hl => absurd hl (Objects.not_live_emptyAfter _ x)⟩

theorem Settled.foldl (hb : s.Settled b) (h : s.Sound) (steps : List Step) :
    (steps.foldl Workshop.step s).Settled b := by
  induction steps generalizing s with
  | nil => exact hb
  | cons a steps ih => exact ih (hb.step h a) (h.step a)

/-- A program that is given is held. -/
theorem Sound.settled_ask (h : s.Sound) (hb : (s.ask purpose).1.built? = some b) :
    (s.ask purpose).2.Settled b := by
  have hheld := h.holds_ask hb
  exact ⟨((h.ask purpose).reserves _ _ _ hheld).named,
    fun _ _ _ => ProgramCache.mem_owned_iff.mpr ⟨purpose, hheld⟩⟩

/-- After a release nothing is left of a program that was ever given. -/
theorem not_live_release (profile : Profile) {before after : List Step}
    (hb : ((run profile before).ask purpose).1.built? = some b) :
    ∀ x ∈ b.handles,
      ¬(run profile (before ++ .ask purpose :: after)).release.device.Live x := by
  intro x hx hl
  have h := sound_run profile before
  rw [run_append, List.foldl_cons] at hl
  have hsound := (h.step (.ask purpose)).foldl after
  have hsettled := ((h.settled_ask hb).foldl (h.step (.ask purpose)) after).step hsound .release
  obtain ⟨q, hq⟩ := ProgramCache.mem_owned_iff.mp (hsettled.held x hx hl)
  cases hq

/-! ## The books -/

/-- The device `e` is `d` with the program and its two shaders in addition. -/
structure Gained (d e : Device) (b : BuiltProgram) : Prop where
  nodup : b.handles.Nodup
  fresh : ∀ x ∈ b.handles, ¬d.Live x
  live : ∀ x, e.Live x ↔ d.Live x ∨ x ∈ b.handles
  stored : ∀ x, d.Live x → e.driver.objects.stored? x = d.driver.objects.stored? x

/-- What a request does to the device: nothing if there is an entry that can be used, or if the
program cannot be built; else the program and its shaders come in addition. -/
theorem Asked.device {entry : CachedProgram} (h : s.Asked purpose entry t)
    (hr : s.device.driver.objects.Regular) :
    (s.programs.usable? purpose s.context ≠ none → t.device = s.device) ∧
      (entry.built? = none →
        ∀ x, t.device.driver.objects.stored? x = s.device.driver.objects.stored? x) ∧
      (s.programs.usable? purpose s.context = none → ∀ b, entry.built? = some b →
        Gained s.device t.device b) := by
  cases h with
  | found hu hd =>
    rw [hu, hd]
    exact ⟨fun _ => rfl, fun _ _ => rfl, nofun⟩
  | @built b' a t hu hb hperm =>
    refine ⟨fun hn => absurd hu hn, nofun, fun _ b hb' => ?_⟩
    cases hb'
    have hg := hb.adds.grows.perm hperm
    refine ⟨hg.nodup, fun x hx hl => ?_, hg.live, fun x hx => hb.adds.stored_of_live hr hx⟩
    have hfresh := hg.fresh x hx
    have hle := hr.name_le x hl
    omega
  | failed hu hb => exact ⟨fun hn => absurd hu hn, fun _ x => hb.adds.stored x, fun _ => nofun⟩

/-- In every run of a cache, whatever fails at its device: a request that finds an entry leaves the
device alone, one that fails to build leaves all objects as they were, and one that builds adds the
program and its two shaders. Until the cache is released or the context is lost, the program for a
purpose is built at most once. Each request counts as an attempt to build or as a hit, failures are
among the attempts, and the last failure for a purpose is known if and only if its entry has no
program, which is so by the type of entries: each holds one or the other. A release empties the
cache and leaves no object of a program that was ever given. -/
theorem books_of_run (profile : Profile) (steps : List Step) :
    let s := run profile steps
    (∀ purpose,
      let entry := (s.ask purpose).1
      let t := (s.ask purpose).2
      (t.programs.statistics.builds = s.programs.statistics.builds → t.device = s.device) ∧
      (entry.built? = none →
        ∀ x, t.device.driver.objects.stored? x = s.device.driver.objects.stored? x) ∧
      (t.programs.statistics.builds ≠ s.programs.statistics.builds →
        ∀ b, entry.built? = some b → Gained s.device t.device b)) ∧
    (∀ later, (∀ a ∈ later, a.ends = false) →
      ∀ purpose, (trail step s later).countP (builds purpose) ≤ 1) ∧
    s.programs.statistics.builds + s.programs.statistics.hits = steps.countP (·.isAsk) ∧
    s.programs.statistics.compileFailures + s.programs.statistics.linkFailures ≤
      s.programs.statistics.builds ∧
    (∀ purpose, (s.programs.failure? purpose).isSome = true ↔
      ∃ entry, s.programs.cached? purpose = some entry ∧ entry.built? = none) ∧
    (∀ purpose, s.release.programs.cached? purpose = none) ∧
    ∀ before after purpose b, steps = before ++ .ask purpose :: after →
      ((run profile before).ask purpose).1.built? = some b →
      ∀ x ∈ b.handles, ¬s.release.device.Live x := by
  intro s
  have h : s.Sound := sound_run profile steps
  refine ⟨fun purpose => ?_, fun later hlater purpose => h.builds_once hlater purpose,
    counted_run profile steps, failures_run profile steps, fun purpose => ?_, fun _ => rfl, ?_⟩
  · have hasked := asked h.regular purpose
    obtain ⟨hfound, hfailed, hbuilt⟩ := hasked.device h.regular
    have hcount := hasked.statistics.1
    refine ⟨fun he => hfound fun hn => ?_, hfailed, fun hne => hbuilt ?_⟩
    · rw [hn, he] at hcount
      simp at hcount
    · by_contra hn
      rw [decide_eq_false hn] at hcount
      exact hne hcount
  · rw [ProgramCache.failure?]
    cases s.programs.cached? purpose with
    | none => simp
    | some entry =>
      obtain ⟨owner, failure | b⟩ := entry <;>
        simp [CachedProgram.failure?, CachedProgram.built?, Except.toOption]
  · rintro before after purpose b rfl hb
    exact not_live_release profile hb

/-- A creation that is refused is no failure of a compiler or a linker; the second request finds the
failed attempt. -/
example : (run .minimal [.undergo (.setFaults ⟨fun _ => true, fun _ => false⟩), .ask .solid,
    .ask .solid]).programs.statistics = ⟨1, 1, 0, 0⟩ := by
  decide

end Workshop

end Compositor
