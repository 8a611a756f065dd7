import Compositor.Program.Cache
import Compositor.Proofs.Program.Building

/-!
# Caching programs

What asking a cache for a program does: it finds what was built before in the context, or it builds
the program, whose objects the device has from then on. Releasing the cache deletes the programs
that can be used in the context and forgets the others.
-/

namespace Compositor

namespace ProgramCache

/-- The program for a purpose that was built in a context. -/
def owned? (c : ProgramCache) (context : Context) (purpose : Purpose) : Option BuiltProgram :=
  ((c.cached? purpose).filter (·.owner = context)).bind (·.built?)

/-- The programs that were built in a context. -/
def owned (c : ProgramCache) (context : Context) : List BuiltProgram :=
  Purpose.all.filterMap (c.owned? context)

/-- The handles of the programs that were built in a context, and of their shaders. -/
def handles (c : ProgramCache) (context : Context) : List Handle :=
  (c.owned context).flatMap BuiltProgram.handles

/-- All entries were made in live contexts. -/
def IsLive (c : ProgramCache) : Prop :=
  ∀ purpose entry, c.cached? purpose = some entry → entry.owner.isLive = true

/-- Every program that was built in the context serves its purpose. -/
def Serves (c : ProgramCache) (context : Context) (o : Objects) : Prop :=
  ∀ purpose p, c.cached? purpose = some ⟨context, .ok p⟩ → p.Serves purpose o

/-- A program that is found in the context could not be built. -/
def Fails (c : ProgramCache) (context : Context) : Prop :=
  ∃ purpose owner failure, c.usable? purpose context = some ⟨owner, .error failure⟩

/-- The cache `c'` is `c` after a program was asked for in a context; `new` are the handles of what
was built for that. -/
inductive Gains (context : Context) (o : Objects) (c c' : ProgramCache) : List Handle → Prop where
  /-- The program was there, or it is known that there is none. -/
  | found : c'.cached? = c.cached? → Gains context o c c' []
  | built {purpose : Purpose} {p : BuiltProgram} {new : List Handle} :
    c.usable? purpose context = none →
      (c'.cached? = fun q => if q = purpose then some ⟨context, .ok p⟩ else c.cached? q) →
      new.Perm p.handles → p.Serves purpose o → Gains context o c c' new
  | failed {purpose : Purpose} {failure : Failure} :
    c.usable? purpose context = none →
      (c'.cached? = fun q => if q = purpose then some ⟨context, .error failure⟩ else c.cached? q) →
      Gains context o c c' []

variable {c c' : ProgramCache} {context : Context} {purpose : Purpose}

/-- In a live context the usable entries are those that were made in it. -/
theorem usable?_eq (hc : c.IsLive) (hl : context.isLive = true) (purpose : Purpose) :
    c.usable? purpose context = (c.cached? purpose).filter (·.owner = context) := by
  unfold usable?
  cases he : c.cached? purpose with
  | none => rfl
  | some entry =>
    rw [Option.filter_some, Option.filter_some]
    simp only [Context.compatible_iff_of_isLive (hc purpose entry he) hl, decide_eq_true_eq]

theorem Fails.failure? (h : c.Fails context) : ∃ purpose, c.failure? purpose ≠ none := by
  obtain ⟨purpose, owner, failure, hu⟩ := h
  refine ⟨purpose, ?_⟩
  rw [ProgramCache.failure?, (Option.filter_eq_some_iff.mp hu).1]
  exact nofun

/-! ## Asking for a program -/

/-- Asking for a program finds an entry that can be used, or builds the program and enters what
comes of it. -/
theorem entry_cases {d e : Device} {entry : CachedProgram}
    (h : c.entry purpose context d = (entry, c', e)) :
    (c.usable? purpose context = some entry ∧ e = d ∧
      c' = { c with statistics := { c.statistics with hits := c.statistics.hits + 1 } }) ∨
    ∃ outcome, c.usable? purpose context = none ∧ d.buildProgram purpose = (outcome, e) ∧
      entry = ⟨context, outcome⟩ ∧
      c' = { c with statistics := c.statistics.countBuild outcome }.insert purpose entry := by
  unfold ProgramCache.entry at h
  cases hu : c.usable? purpose context with
  | some found =>
    rw [hu] at h
    cases h
    exact Or.inl ⟨rfl, rfl, rfl⟩
  | none =>
    rw [hu] at h
    cases h
    exact Or.inr ⟨_, rfl, rfl, rfl, rfl⟩

/-- Nothing that was there changes, and what there is in addition was built for the program. -/
theorem entry_gains {d e : Device} (hr : d.driver.objects.Regular) {entry : CachedProgram}
    (h : c.entry purpose context d = (entry, c', e)) :
    ∃ new, d.Grows e new ∧ d.SameScene e ∧
      (∀ x, d.Live x → e.driver.objects.stored? x = d.driver.objects.stored? x) ∧
        Gains context e.driver.objects c c' new := by
  obtain ⟨-, rfl, rfl⟩ | ⟨failure | p, hu, hb, rfl, rfl⟩ := entry_cases h
  · exact ⟨[], .refl _, .refl _, fun _ _ => rfl, .found rfl⟩
  · have hbuilds := Device.builds_buildProgram hr hb
    exact ⟨[], hbuilds.adds.grows, hbuilds.scene, fun x _ => hbuilds.adds.stored x,
      .failed hu rfl⟩
  · obtain ⟨⟨a, hbuilds, hp⟩, hserves⟩ := Device.builds_buildProgram hr hb
    exact ⟨a.handles, hbuilds.adds.grows, hbuilds.scene,
      fun x hx => hbuilds.adds.stored_of_live hr hx, .built hu rfl hp hserves⟩

/-- The entry that is given is the one that the cache holds from then on. -/
theorem cached?_entry {d e : Device} {entry : CachedProgram}
    (h : c.entry purpose context d = (entry, c', e)) :
    c'.cached? purpose = some entry ∧ entry.owner.compatible context = true := by
  obtain ⟨hu, rfl, rfl⟩ | ⟨outcome, -, -, rfl, rfl⟩ := entry_cases h
  · exact Option.filter_eq_some_iff.mp hu
  · exact ⟨if_pos rfl, context.compatible_self⟩

/-! ## What is owned -/

theorem owned?_eq_some_iff {p : BuiltProgram} :
    c.owned? context purpose = some p ↔ c.cached? purpose = some ⟨context, .ok p⟩ := by
  constructor
  · intro hp
    obtain ⟨entry, hf, hb⟩ := Option.bind_eq_some_iff.mp hp
    obtain ⟨he, ho⟩ := Option.filter_eq_some_iff.mp hf
    obtain ⟨owner, outcome⟩ := entry
    obtain rfl : owner = context := by simpa using ho
    cases outcome with
    | error failure => cases hb
    | ok q =>
      cases hb
      exact he
  · intro he
    rw [owned?, he, Option.filter_some_pos (by simp)]
    rfl

theorem mem_owned_iff {p : BuiltProgram} :
    p ∈ c.owned context ↔ ∃ purpose, c.cached? purpose = some ⟨context, .ok p⟩ := by
  simp only [owned, List.mem_filterMap, owned?_eq_some_iff]
  exact ⟨fun ⟨purpose, _, h⟩ => ⟨purpose, h⟩, fun ⟨purpose, h⟩ => ⟨purpose, purpose.mem_all, h⟩⟩

theorem owned?_of_usable?_eq_none (hc : c.IsLive) (hl : context.isLive = true)
    (h : c.usable? purpose context = none) : c.owned? context purpose = none := by
  rw [owned?, ← usable?_eq hc hl, h]
  rfl

theorem owned?_congr (h : c'.cached? purpose = c.cached? purpose) :
    c'.owned? context purpose = c.owned? context purpose := by
  rw [owned?, owned?, h]

theorem owned_congr (h : c'.cached? = c.cached?) (context : Context) :
    c'.owned context = c.owned context :=
  List.filterMap_congr fun q _ => owned?_congr (congrFun h q)

theorem handles_congr (h : c'.cached? = c.cached?) (context : Context) :
    c'.handles context = c.handles context := by
  rw [handles, handles, owned_congr h]

/-- Without an entry of the context nothing is owned in it. -/
theorem handles_eq_nil (h : ∀ purpose entry, c.cached? purpose = some entry →
    entry.owner ≠ context) : c.handles context = [] := by
  have howned : c.owned context = [] := by
    refine List.filterMap_eq_nil_iff.mpr fun purpose _ => ?_
    refine Option.eq_none_iff_forall_not_mem.mpr fun p hp => ?_
    exact h purpose _ (owned?_eq_some_iff.mp hp) rfl
  rw [handles, howned]
  rfl

/-- Filling one slot of a row that was empty adds what is put there. -/
theorem perm_filterMap_of_update {α β : Type} {l : List α} (hn : l.Nodup) {f g : α → Option β}
    {a : α} (ha : a ∈ l) {b : β} (hf : f a = none) (hg : g a = some b)
    (hne : ∀ x, x ≠ a → g x = f x) : (l.filterMap g).Perm (b :: l.filterMap f) := by
  induction l with
  | nil => cases ha
  | cons x l ih =>
    obtain ⟨hx, hn⟩ := List.nodup_cons.mp hn
    rcases List.mem_cons.mp ha with rfl | ha
    · have hrest : l.filterMap g = l.filterMap f :=
        List.filterMap_congr fun y hy => hne y fun he => hx (he ▸ hy)
      rw [List.filterMap_cons_some hg, List.filterMap_cons_none hf, hrest]
    · have hxa : g x = f x := hne x fun he => hx (he ▸ ha)
      cases hfx : f x with
      | none =>
        rw [List.filterMap_cons_none (hxa.trans hfx), List.filterMap_cons_none hfx]
        exact ih hn ha
      | some y =>
        rw [List.filterMap_cons_some (hxa.trans hfx), List.filterMap_cons_some hfx]
        exact ((ih hn ha).cons y).trans (.swap _ _ _)

namespace Gains

variable {o : Objects} {new : List Handle}

/-- What was built is owned from then on, beside what was owned before. -/
theorem perm_handles (h : Gains context o c c' new) (hc : c.IsLive)
    (hl : context.isLive = true) : (c'.handles context).Perm (new ++ c.handles context) := by
  cases h with
  | found he =>
    rw [handles_congr he]
    exact .refl _
  | @built purpose p _ hu he hp =>
    -- the entry that was there before, if any, was of another context or a failure
    have howned : (c'.owned context).Perm (p :: c.owned context) := by
      refine perm_filterMap_of_update (by decide) purpose.mem_all
        (owned?_of_usable?_eq_none hc hl hu) ?_ ?_
      · rw [owned?_eq_some_iff, he]
        exact if_pos rfl
      · intro q hq
        exact owned?_congr (by rw [he]; exact if_neg hq)
    exact (howned.flatMap_right _).trans (hp.symm.append_right _)
  | @failed purpose failure hu he =>
    have howned : c'.owned context = c.owned context := by
      refine List.filterMap_congr fun q _ => ?_
      by_cases hq : q = purpose
      · subst hq
        rw [owned?_of_usable?_eq_none hc hl hu, owned?, he]
        simp [CachedProgram.built?, Except.toOption]
      · exact owned?_congr (by rw [he]; exact if_neg hq)
    rw [handles, howned]
    exact .refl _

/-- What the cache holds then was held before, or made in the context. -/
theorem cached?_eq (h : Gains context o c c' new) {q : Purpose} {entry : CachedProgram}
    (hq : c'.cached? q = some entry) :
    c.cached? q = some entry ∨
      entry.owner = context ∧ ∀ p, entry.outcome = .ok p → p.Serves q o := by
  cases h with
  | found he => exact Or.inl (he ▸ hq)
  | @built purpose p _ hu he hp hserves =>
    rw [he] at hq
    dsimp only at hq
    split at hq
    · rename_i hqp
      cases hq
      refine Or.inr ⟨rfl, fun p' hp' => ?_⟩
      cases hp'
      rwa [hqp]
    · exact Or.inl hq
  | @failed purpose failure hu he =>
    rw [he] at hq
    dsimp only at hq
    split at hq
    · cases hq
      exact Or.inr ⟨rfl, nofun⟩
    · exact Or.inl hq

theorem isLive (h : Gains context o c c' new) (hc : c.IsLive) (hl : context.isLive = true) :
    c'.IsLive := by
  intro q entry hq
  rcases h.cached?_eq hq with hold | ⟨rfl, -⟩
  · exact hc q entry hold
  · exact hl

/-- What is found goes on being found. -/
theorem usable?_of_usable? (h : Gains context o c c' new) {q : Purpose} {entry : CachedProgram}
    (hq : c.usable? q context = some entry) : c'.usable? q context = some entry := by
  have hother {p : Purpose} {e : CachedProgram} (hp : c.usable? p context = none)
      (he : c'.cached? = fun r => if r = p then some e else c.cached? r) :
      c'.cached? q = c.cached? q := by
    rw [he]
    refine if_neg ?_
    rintro rfl
    rw [hp] at hq
    cases hq
  have hcached : c'.cached? q = c.cached? q := by
    cases h with
    | found he => rw [he]
    | built hp he => exact hother hp he
    | failed hp he => exact hother hp he
  rw [ProgramCache.usable?, hcached]
  exact hq

/-- What could not be built in the context stays so. -/
theorem fails (h : Gains context o c c' new) (hf : c.Fails context) : c'.Fails context := by
  obtain ⟨purpose, owner, failure, hu⟩ := hf
  exact ⟨purpose, owner, failure, h.usable?_of_usable? hu⟩

/-- Programs go on serving where live objects keep their outlines. -/
theorem serves {o₀ : Objects} (h : Gains context o c c' new) (hs : c.Serves context o₀)
    (ho : ∀ x, o₀.Live x → o.outline? x = o₀.outline? x) : c'.Serves context o := by
  intro q p hq
  rcases h.cached?_eq hq with hold | ⟨-, hnew⟩
  · exact (hs q p hold).congr (ho _ (hs q p hold).live)
  · exact hnew p rfl

/-- Only the entries matter, and of the objects only the outlines of what was built. -/
theorem congr {b b' : ProgramCache} {o' : Objects} (h : Gains context o c c' new)
    (hb : b.cached? = c.cached?) (hb' : b'.cached? = c'.cached?)
    (ho : ∀ x ∈ new, o'.outline? x = o.outline? x) : Gains context o' b b' new := by
  have husable (q : Purpose) : b.usable? q context = c.usable? q context := by
    rw [usable?, usable?, hb]
  cases h with
  | found he => exact .found (hb'.trans (he.trans hb.symm))
  | @built purpose p _ hu he hp hserves =>
    refine .built ((husable purpose).trans hu) (by rw [hb', he, hb]) hp (hserves.congr (ho _ ?_))
    exact hp.mem_iff.mpr List.mem_cons_self
  | failed hu he => exact .failed ((husable _).trans hu) (by rw [hb', he, hb])

end Gains

/-! ## Releasing -/

/-- The calls that delete programs. -/
def deletions (programs : List BuiltProgram) : List Call :=
  programs.flatMap fun p =>
    [.deleteProgram p.program, .deleteShader p.vertex, .deleteShader p.fragment]

theorem deletes?_deletions (programs : List BuiltProgram) :
    (deletions programs).map Call.deletes? = (programs.flatMap BuiltProgram.handles).map some := by
  induction programs with
  | nil => rfl
  | cons p programs ih =>
    rw [deletions, List.flatMap_cons, List.map_append, ← deletions, ih, List.flatMap_cons,
      List.map_append]
    rfl

/-- The calls bind no framebuffer and set nothing for drawing. -/
theorem sets_deletions {programs : List BuiltProgram} {c : Call} (hc : c ∈ deletions programs) :
    c.setsFramebuffer = false ∧ c.setsPipeline = false := by
  obtain ⟨program, -, hc⟩ := List.mem_flatMap.mp hc
  simp only [List.mem_cons, List.mem_nil_iff, or_false] at hc
  rcases hc with rfl | rfl | rfl <;> exact ⟨rfl, rfl⟩

theorem foldl_delete (programs : List BuiltProgram) (d : Device) :
    programs.foldl (fun d p => p.delete d) d = d.performAll (deletions programs) := by
  induction programs generalizing d with
  | nil => rfl
  | cons p programs ih =>
    rw [List.foldl_cons, ih, deletions, deletions, List.flatMap_cons, Device.performAll_append]
    rfl

theorem release_programs (hc : c.IsLive) (hl : context.isLive = true) :
    (Purpose.all.filterMap fun p => (c.usable? p context).bind (·.built?)) = c.owned context := by
  refine List.filterMap_congr fun q _ => ?_
  rw [usable?_eq hc hl]
  rfl

end ProgramCache

end Compositor
