import Compositor.Proofs.Program.Caching
import Compositor.Proofs.Program.Linkage
import Compositor.Proofs.Trail

/-!
# Programs on demand

A cache of programs and the device that it works on. Programs are asked for in the current context,
now and then the cache is released, and in between anything else may happen at the device: faults,
the loss of the context, calls of others.

`Asked` says once what asking for a program comes to; `Sound` is what holds throughout.
-/

namespace Compositor

/-- A cache of programs with the device that it works on. -/
structure Workshop where
  programs : ProgramCache
  device : Device

namespace Workshop

/-- An empty cache on a new device. -/
def start (profile : Profile) : Workshop := ⟨.empty, .create profile⟩

/-- The context that the driver is in. -/
def context (s : Workshop) : Context := s.device.driver.context

/-- Asks for the program for a purpose in the current context. -/
def ask (s : Workshop) (purpose : Purpose) : CachedProgram × Workshop :=
  let (entry, programs, device) := s.programs.entry purpose s.context s.device
  (entry, ⟨programs, device⟩)

/-- Releases the cache in the current context. -/
def release (s : Workshop) : Workshop :=
  let (programs, device) := s.programs.release s.context s.device
  ⟨programs, device⟩

/-- What can happen to a cache and its device. -/
inductive Step where
  | ask (purpose : Purpose)
  | release
  | undergo (i : Incident)

/-- Whether the programs are gone after the step. -/
def Step.ends : Step → Bool
  | ask _ => false
  | release => true
  | undergo i => i.isLoss

def step (s : Workshop) : Step → Workshop
  | .ask purpose => (s.ask purpose).2
  | .release => s.release
  | .undergo i => { s with device := s.device.undergo i }

/-- What comes of a new cache on a new device. -/
def run (profile : Profile) (steps : List Step) : Workshop := steps.foldl step (start profile)

theorem run_append (profile : Profile) (before after : List Step) :
    run profile (before ++ after) = after.foldl step (run profile before) := List.foldl_append

variable {s t : Workshop} {purpose : Purpose} {b : BuiltProgram}

/-! ## Asking -/

/-- What asking for the program for a purpose comes to. -/
inductive Asked (s : Workshop) (purpose : Purpose) : CachedProgram → Workshop → Prop where
  /-- There is an entry that can be used. -/
  | found {entry : CachedProgram} {t : Workshop} :
    s.programs.usable? purpose s.context = some entry → t.device = s.device →
    t.programs.cached? = s.programs.cached? →
    t.programs.statistics =
      { s.programs.statistics with hits := s.programs.statistics.hits + 1 } →
    Asked s purpose entry t
  /-- There is none, and the program is built. -/
  | built {b : BuiltProgram} {a : Inventory} {t : Workshop} :
    s.programs.usable? purpose s.context = none → s.device.Builds t.device a →
    a.handles.Perm b.handles → b.IsUsable purpose t.device.driver →
    t.programs = { s.programs with
      statistics := s.programs.statistics.countBuild (.ok b : Except Failure BuiltProgram) }.insert
        purpose ⟨s.context, .ok b⟩ →
    Asked s purpose ⟨s.context, .ok b⟩ t
  /-- There is none, and the program cannot be built. -/
  | failed {failure : Failure} {t : Workshop} :
    s.programs.usable? purpose s.context = none → s.device.Builds t.device [] →
    t.programs = { s.programs with
      statistics := s.programs.statistics.countBuild
        (.error failure : Except Failure BuiltProgram) }.insert
        purpose ⟨s.context, .error failure⟩ →
    Asked s purpose ⟨s.context, .error failure⟩ t

theorem asked (hr : s.device.driver.objects.Regular) (purpose : Purpose) :
    s.Asked purpose (s.ask purpose).1 (s.ask purpose).2 := by
  unfold ask
  rcases he : s.programs.entry purpose s.context s.device with ⟨entry, programs, e⟩
  dsimp only
  obtain ⟨hu, rfl, rfl⟩ | ⟨failure | b, hu, hb, rfl, rfl⟩ := ProgramCache.entry_cases he
  · exact .found hu rfl rfl rfl
  · exact .failed hu (Device.builds_buildProgram hr hb) rfl
  · obtain ⟨⟨a, hbuilds, hperm⟩, -⟩ := Device.builds_buildProgram hr hb
    exact .built hu hbuilds hperm (.of_buildProgram hr hb) rfl

namespace Asked

variable {entry : CachedProgram}

/-- The entry is kept; all others stay. -/
theorem cached? (h : s.Asked purpose entry t) (q : Purpose) :
    t.programs.cached? q = if q = purpose then some entry else s.programs.cached? q := by
  cases h with
  | found hu _ hc =>
    rw [hc]
    split
    · rename_i hq
      rw [hq]
      exact (Option.filter_eq_some_iff.mp hu).1
    · rfl
  | built _ _ _ _ hp => rw [hp]; rfl
  | failed _ _ hp => rw [hp]; rfl

/-- Nothing that was there changes. What is there in addition was made for a program that is entered
now. -/
theorem grows (h : s.Asked purpose entry t) :
    ∃ new, s.device.Grows t.device new ∧
      (s.device.driver.objects.Regular → ∀ x, s.device.Live x →
        t.device.driver.objects.stored? x = s.device.driver.objects.stored? x) ∧
      (s.programs.usable? purpose s.context = none →
        entry.owner = s.context ∧ ∀ b, entry.outcome = .ok b → new.Perm b.handles) := by
  cases h with
  | found hu hd =>
    rw [hd]
    refine ⟨[], .refl _, fun _ _ _ => rfl, fun hn => ?_⟩
    rw [hn] at hu
    cases hu
  | built hu hb hperm =>
    refine ⟨_, hb.adds.grows, fun hr _ hx => hb.adds.stored_of_live hr hx, fun _ => ⟨rfl, ?_⟩⟩
    rintro b' ⟨⟩
    exact hperm
  | failed hu hb =>
    exact ⟨_, hb.adds.grows, fun hr _ hx => hb.adds.stored_of_live hr hx, fun _ => ⟨rfl, nofun⟩⟩

end Asked

/-! ## What holds throughout -/

/-- The cache holds a program for a purpose that was built in the current context. -/
def Holds (s : Workshop) (purpose : Purpose) (b : BuiltProgram) : Prop :=
  s.programs.cached? purpose = some ⟨s.context, .ok b⟩

/-- The program was given a name, which the cache has for no purpose but this one. -/
structure Reserves (s : Workshop) (purpose : Purpose) (b : BuiltProgram) : Prop where
  named : ∀ x ∈ b.handles, x.name ≤ s.device.driver.objects.issued
  only : ∀ q owner b', s.programs.cached? q = some ⟨owner, .ok b'⟩ → b'.program = b.program →
    q = purpose

/-- What holds of every cache and its device. -/
structure Sound (s : Workshop) : Prop where
  regular : s.device.driver.objects.Regular
  current : s.context.isLive = true
  dated : s.context.IsDated s.device.driver.contexts
  /-- Entries were made in contexts that were handed out. -/
  owners : ∀ q entry, s.programs.cached? q = some entry →
    entry.owner.isLive = true ∧ entry.owner.IsDated s.device.driver.contexts
  reserves : ∀ q owner b, s.programs.cached? q = some ⟨owner, .ok b⟩ → s.Reserves q b

theorem sound_start (profile : Profile) : (start profile).Sound where
  regular := Objects.regular_emptyAfter 0
  current := rfl
  dated n hn := by
    cases hn
    exact Nat.le_refl 1
  owners := nofun
  reserves := nofun

/-- In the current context the entries that can be used are those that were made in it. -/
theorem Sound.usable? (h : s.Sound) (q : Purpose) :
    s.programs.usable? q s.context = (s.programs.cached? q).filter (·.owner = s.context) :=
  ProgramCache.usable?_eq (fun p entry he => (h.owners p entry he).1) h.current q

theorem Sound.usable?_eq_some_iff (h : s.Sound) {q : Purpose} {entry : CachedProgram} :
    s.programs.usable? q s.context = some entry ↔
      s.programs.cached? q = some entry ∧ entry.owner = s.context := by
  rw [h.usable?, Option.filter_eq_some_iff, decide_eq_true_eq]

/-- The entry that is given was made in the current context. -/
theorem Asked.owner {entry : CachedProgram} (h : s.Asked purpose entry t) (hs : s.Sound) :
    entry.owner = s.context := by
  cases h with
  | found hu => exact (hs.usable?_eq_some_iff.mp hu).2
  | built => rfl
  | failed => rfl

/-- What the cache holds was held before, or it is what is given now. -/
theorem Asked.cached?_cases {entry : CachedProgram} (h : s.Asked purpose entry t) {q : Purpose}
    {e : CachedProgram} (hc : t.programs.cached? q = some e) :
    s.programs.cached? q = some e ∨
      q = purpose ∧ e = entry ∧ s.programs.usable? purpose s.context = none := by
  cases h with
  | found hu hd hsame => exact Or.inl (hsame ▸ hc)
  | built hu _ _ _ hp | failed hu _ hp =>
    rw [hp] at hc
    dsimp only [ProgramCache.insert] at hc
    split at hc
    · rename_i hq
      exact Or.inr ⟨hq, (Option.some.inj hc).symm, hu⟩
    · exact Or.inl hc

/-- What can be used stays in the cache. -/
theorem Asked.cached?_of_usable? {entry found : CachedProgram} (h : s.Asked purpose entry t)
    {q : Purpose} (hu : s.programs.usable? q s.context = some found) :
    t.programs.cached? q = some found := by
  have hc := (Option.filter_eq_some_iff.mp hu).1
  cases h with
  | found _ _ hsame => rw [hsame, hc]
  | built hn _ _ _ hp | failed hn _ hp =>
    rw [hp]
    refine (if_neg ?_).trans hc
    rintro rfl
    rw [hn] at hu
    cases hu

/-- A name that is reserved stays so: what is built is given a later one. -/
theorem Asked.keepsReserved {entry : CachedProgram} (h : s.Asked purpose entry t) {q : Purpose}
    (hb : s.Reserves q b) : t.Reserves q b := by
  obtain ⟨new, hg, -, hnew⟩ := h.grows
  refine ⟨fun x hx => Nat.le_trans (hb.named x hx) hg.edits.issued_le, fun r owner b' hc he => ?_⟩
  rcases h.cached?_cases hc with hold | ⟨-, rfl, hu⟩
  · exact hb.only r owner b' hold he
  · have hfresh := hg.fresh b'.program.handle
      (((hnew hu).2 b' rfl).mem_iff.mpr List.mem_cons_self)
    have hnamed := hb.named b.program.handle List.mem_cons_self
    rw [he] at hfresh
    omega

/-- What is built gets a name that the cache does not have. -/
theorem Asked.reserves {owner : Context} (h : s.Asked purpose ⟨owner, .ok b⟩ t) (hs : s.Sound)
    (hu : s.programs.usable? purpose s.context = none) : t.Reserves purpose b := by
  obtain ⟨new, hg, -, hnew⟩ := h.grows
  have hperm := (hnew hu).2 b rfl
  refine ⟨fun x hx => ?_, fun q owner' b' hc he => ?_⟩
  · exact (hg.regular hs.regular).name_le x ((hg.live x).mpr (Or.inr (hperm.mem_iff.mpr hx)))
  · rcases h.cached?_cases hc with hold | ⟨hq, -, -⟩
    · have hfresh := hg.fresh b.program.handle (hperm.mem_iff.mpr List.mem_cons_self)
      have hnamed := (hs.reserves q owner' b' hold).named b'.program.handle List.mem_cons_self
      rw [he] at hnamed
      omega
    · exact hq

theorem Sound.ask (h : s.Sound) (purpose : Purpose) : (s.ask purpose).2.Sound := by
  have hasked := asked h.regular purpose
  have howner := hasked.owner h
  revert hasked howner
  generalize (s.ask purpose).1 = entry
  generalize (s.ask purpose).2 = t
  intro hasked howner
  obtain ⟨new, hg, -, hnew⟩ := hasked.grows
  have hcontext : t.context = s.context := hg.host.context
  refine ⟨hg.regular h.regular, by rw [hcontext]; exact h.current, ?_, fun q e hc => ?_,
    fun q owner b hc => ?_⟩
  · rw [hcontext, hg.host.contexts]
    exact h.dated
  · rw [hg.host.contexts]
    rcases hasked.cached?_cases hc with hold | ⟨-, rfl, -⟩
    · exact h.owners q e hold
    · rw [howner]
      exact ⟨h.current, h.dated⟩
  · rcases hasked.cached?_cases hc with hold | ⟨rfl, rfl, hu⟩
    · exact hasked.keepsReserved (h.reserves q owner b hold)
    · exact hasked.reserves h hu

/-! ## Releasing and incidents -/

/-- Releasing deletes the objects of what was built in the current context. -/
theorem Sound.drops_release (h : s.Sound) :
    s.device.Drops s.release.device (s.programs.handles s.context) := by
  have hrelease : s.release.device =
      s.device.performAll (ProgramCache.deletions (s.programs.owned s.context)) := by
    rw [← ProgramCache.foldl_delete, ← ProgramCache.release_programs
      (fun q e he => (h.owners q e he).1) h.current]
    rfl
  rw [hrelease]
  exact s.device.drops_performAll (ProgramCache.deletes?_deletions _)

theorem Sound.release (h : s.Sound) : s.release.Sound := by
  have hdrops := h.drops_release
  have hcontext : s.release.context = s.context := hdrops.host.context
  refine ⟨hdrops.edits.regular h.regular, by rw [hcontext]; exact h.current, ?_, nofun, nofun⟩
  rw [hcontext, hdrops.host.contexts]
  exact h.dated

theorem Sound.undergo (h : s.Sound) (i : Incident) : (s.step (.undergo i)).Sound := by
  have hregular : (s.step (.undergo i)).device.driver.objects.Regular :=
    Device.regular_undergo h.regular i
  have hreserves (q : Purpose) (owner : Context) (b : BuiltProgram)
      (hc : s.programs.cached? q = some ⟨owner, .ok b⟩) : (s.step (.undergo i)).Reserves q b :=
    ⟨fun x hx => Nat.le_trans ((h.reserves q owner b hc).named x hx)
      (s.device.issued_le_undergo i), (h.reserves q owner b hc).only⟩
  cases hl : i.isLoss with
  | false =>
    obtain ⟨-, hc, hn⟩ := s.device.undergo_of_not_isLoss hl
    have hcontext : (s.step (.undergo i)).context = s.context := hc
    refine ⟨hregular, by rw [hcontext]; exact h.current, ?_, fun q e he => ?_, hreserves⟩
    · rw [hcontext]
      exact h.dated.mono hn
    · exact ⟨(h.owners q e he).1, (h.owners q e he).2.mono hn⟩
  | true =>
    obtain rfl := Incident.eq_loseContext hl
    have hn : s.device.driver.contexts ≤ s.device.driver.contexts + 1 := Nat.le_succ _
    refine ⟨hregular, rfl, fun n he => ?_, fun q e he => ?_, hreserves⟩
    · cases he
      exact Nat.le_refl _
    · exact ⟨(h.owners q e he).1, (h.owners q e he).2.mono hn⟩

theorem Sound.step (h : s.Sound) (a : Step) : (s.step a).Sound := by
  cases a with
  | ask purpose => exact h.ask purpose
  | release => exact h.release
  | undergo i => exact h.undergo i

theorem Sound.foldl (h : s.Sound) (steps : List Step) : (steps.foldl Workshop.step s).Sound :=
  List.foldlRecOn (motive := Sound) steps _ h fun _ hs a _ => hs.step a

theorem sound_run (profile : Profile) (steps : List Step) : (run profile steps).Sound :=
  (sound_start profile).foldl steps

/-! ## Periods -/

/-- Until the cache is released or the context is lost, what can be used goes on being used. -/
theorem Sound.usable?_step (h : s.Sound) {a : Step} (ha : a.ends = false) {q : Purpose}
    {entry : CachedProgram} (hu : s.programs.usable? q s.context = some entry) :
    (s.step a).programs.usable? q (s.step a).context = some entry := by
  rw [(h.step a).usable?_eq_some_iff]
  obtain ⟨hc, ho⟩ := h.usable?_eq_some_iff.mp hu
  cases a with
  | ask purpose =>
    have hasked := asked h.regular purpose
    obtain ⟨new, hg, -, -⟩ := hasked.grows
    have hcontext : (s.ask purpose).2.context = s.context := hg.host.context
    exact ⟨hasked.cached?_of_usable? hu, ho.trans hcontext.symm⟩
  | release => cases ha
  | undergo i =>
    obtain ⟨-, hcontext, -⟩ := s.device.undergo_of_not_isLoss ha
    exact ⟨hc, ho.trans hcontext.symm⟩

theorem Sound.usable?_foldl (h : s.Sound) {steps : List Step} (hsteps : ∀ a ∈ steps, a.ends = false)
    {q : Purpose} {entry : CachedProgram} (hu : s.programs.usable? q s.context = some entry) :
    (steps.foldl Workshop.step s).programs.usable? q (steps.foldl Workshop.step s).context =
      some entry := by
  induction steps generalizing s with
  | nil => exact hu
  | cons a steps ih =>
    obtain ⟨ha, hrest⟩ := List.forall_mem_cons.mp hsteps
    exact ih (h.step a) hrest (h.usable?_step ha hu)

/-- What can be used is what is given. -/
theorem ask_of_usable? {entry : CachedProgram}
    (hu : s.programs.usable? purpose s.context = some entry) : (s.ask purpose).1 = entry := by
  unfold ask ProgramCache.entry
  rw [hu]

/-- What is given can be used from then on. -/
theorem Sound.usable?_ask (h : s.Sound) (purpose : Purpose) :
    (s.ask purpose).2.programs.usable? purpose (s.ask purpose).2.context =
      some (s.ask purpose).1 := by
  have hasked := asked h.regular purpose
  obtain ⟨new, hg, -, -⟩ := hasked.grows
  have hcontext : (s.ask purpose).2.context = s.context := hg.host.context
  rw [(h.ask purpose).usable?_eq_some_iff, hasked.cached?, if_pos rfl, hcontext]
  exact ⟨rfl, hasked.owner h⟩

/-- A program that is given is held in the current context. -/
theorem Sound.holds_ask (h : s.Sound) (hb : (s.ask purpose).1.built? = some b) :
    (s.ask purpose).2.Holds purpose b := by
  obtain ⟨hcached, howner⟩ := (h.ask purpose).usable?_eq_some_iff.mp (h.usable?_ask purpose)
  revert hb hcached howner
  generalize (s.ask purpose).1 = entry
  intro hb hcached howner
  obtain ⟨owner, failure | b'⟩ := entry
  · cases hb
  · cases hb
    rw [Holds, hcached, ← howner]

/-- What is held stays in the cache while no step ends that. -/
theorem Sound.holds_foldl (h : s.Sound) {steps : List Step} (hsteps : ∀ a ∈ steps, a.ends = false)
    (hb : s.Holds purpose b) : (steps.foldl Workshop.step s).Holds purpose b := by
  have hu := h.usable?_foldl hsteps (h.usable?_eq_some_iff.mpr ⟨hb, rfl⟩)
  obtain ⟨hcached, howner⟩ := (h.foldl steps).usable?_eq_some_iff.mp hu
  rw [Holds, hcached, ← howner]

end Workshop

end Compositor
