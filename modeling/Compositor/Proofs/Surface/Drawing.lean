import Compositor.Proofs.Canvas.Drawing
import Compositor.Proofs.Surface.Running

/-!
# Draws of a surface

When a draw that counts as done was done. Here things may be drawn before the first report: the
programs for that are built under the uninitialized context, and they go on being used after a
report, as that context is compatible with every other.

As long as the first context is not lost that does no harm, and a program that was built under an
identity is used under this identity only. But a program of the uninitialized context is also found
after its context was lost and the new one was reported. Then the draw counts as done and paints
nothing, so for a draw that can be relied on no such program may be left (`Surface.Outlasts`).
-/

namespace Compositor

open Numeric

namespace Surface

/-- A context value names the current context: by its identity, or, if it is the uninitialized one,
as long as no context was lost. -/
def Names (s : Surface) (context : Context) : Prop :=
  context = s.driver.context ∨ context = .uninitialized ∧ s.driver.context = .live 1

/-- Every report, direct or as an event, names the context that is current when it is applied, and
nothing is drawn while a new context was not reported. -/
def Reports (s : Surface) : Operation → Prop
  | .adoptContext context => context = s.driver.context
  | .update | .beginFrame =>
    ∀ context, Event.adoptContext context ∈ s.pending → context = s.driver.context
  | .fill .. | .drawTexture _ | .endFrame => s.Names s.context
  | _ => True

/-- The application neither deletes nor alters a program of the surface. -/
def Spares (s : Surface) : Incident → Prop
  | .call call => ∀ purpose owner p, s.canvas.programs.cached? purpose = some ⟨owner, .ok p⟩ →
    s.driver.target? call ≠ some p.program.handle
  | _ => True

/-- A program for the purpose that was made before the first report is there after the first context
was lost. -/
def Outlasts (s : Surface) (purpose : Purpose) : Prop :=
  s.driver.context ≠ .live 1 ∧
    ∃ entry, s.canvas.programs.cached? purpose = some entry ∧ entry.owner = .uninitialized

/-- A program for the purpose that was built in the current context is there and serves. -/
def Supplies (s : Surface) (purpose : Purpose) : Prop :=
  ∃ owner p, s.canvas.programs.cached? purpose = some ⟨owner, .ok p⟩ ∧ s.Names owner ∧
    p.Serves purpose s.driver.objects

/-! ## Programs and their contexts -/

/-- What is known of a program that the cache holds under an owner. It serves while the owner names
the current context, and is gone otherwise. -/
structure Shelved (s : Surface) (purpose : Purpose) (owner : Context) (p : BuiltProgram) :
    Prop where
  located : p.IsLocated purpose
  issued : p.program.name ≤ s.driver.objects.issued
  serves : s.Names owner → p.Serves purpose s.driver.objects
  gone : ¬ s.Names owner → ¬ s.driver.objects.Live p.program.handle

/-- What is known of the contexts that the surface and its programs note. -/
structure Stocked (s : Surface) : Prop where
  regular : s.driver.objects.Regular
  current : s.driver.context.isLive = true
  current_dated : s.driver.context.IsDated s.driver.contexts
  counted : 0 < s.driver.contexts
  context_dated : s.context.IsDated s.driver.contexts
  owner_dated : ∀ purpose entry, s.canvas.programs.cached? purpose = some entry →
    entry.owner.IsDated s.driver.contexts
  /-- Before the first report all programs are of the uninitialized context. -/
  unreported : s.context = .uninitialized → ∀ purpose entry,
    s.canvas.programs.cached? purpose = some entry → entry.owner = .uninitialized
  programs : ∀ purpose owner p, s.canvas.programs.cached? purpose = some ⟨owner, .ok p⟩ →
    s.Shelved purpose owner p

variable {s s' : Surface} {purpose : Purpose} {owner : Context} {p : BuiltProgram}

theorem names_congr (hc : s'.driver.context = s.driver.context) (context : Context) :
    s'.Names context ↔ s.Names context := by
  rw [Names, Names, hc]

theorem stocked_start (profile : Profile) (settings : Settings) (policy : Policy) :
    (withPolicy profile settings policy).Stocked where
  regular := Objects.regular_emptyAfter 0
  current := rfl
  current_dated n hn := by
    cases hn
    exact Nat.le_refl 1
  counted := Nat.one_pos
  context_dated := nofun
  owner_dated := nofun
  unreported _ := nofun
  programs := nofun

/-- What does not alter the program leaves it on its shelf. -/
theorem Shelved.keep (h : s.Shelved purpose owner p)
    (hc : s'.driver.context = s.driver.context)
    (he : s.driver.objects.Edits s'.driver.objects)
    (ho : s.driver.objects.Live p.program.handle →
      s'.driver.objects.outline? p.program.handle = s.driver.objects.outline? p.program.handle) :
    s'.Shelved purpose owner p where
  located := h.located
  issued := Nat.le_trans h.issued he.issued_le
  serves hn := by
    have hs := h.serves ((names_congr hc owner).mp hn)
    exact hs.congr (ho hs.live)
  gone hn hl := by
    refine h.gone (fun hnames => hn ((names_congr hc owner).mpr hnames)) ?_
    exact he.live_of_live hl h.issued

namespace Stocked

/-- An entry after a step: it was there before, its program is not altered, or it was made under the
context that the surface notes, which names the current one. -/
inductive Enters (s s' : Surface) (purpose : Purpose) (entry : CachedProgram) : Prop where
  | kept : s.canvas.programs.cached? purpose = some entry →
    (∀ p, entry.outcome = .ok p → s.driver.objects.Live p.program.handle →
      s'.driver.objects.outline? p.program.handle =
        s.driver.objects.outline? p.program.handle) → Enters s s' purpose entry
  | made : entry.owner = s.context → s'.context = s.context → s.Names s.context →
    (∀ p, entry.outcome = .ok p → p.Serves purpose s'.driver.objects) → Enters s s' purpose entry

/-- One step: the surface may note the current context, and entries may go or be made. -/
theorem step (h : s.Stocked) (he : s.driver.objects.Edits s'.driver.objects)
    (hh : s.canvas.device.SameHost s'.canvas.device)
    (hc : s'.context = s.context ∨ s'.context = s.driver.context)
    (hentries : ∀ purpose entry, s'.canvas.programs.cached? purpose = some entry →
      Enters s s' purpose entry) : s'.Stocked := by
  have hcontext : s'.driver.context = s.driver.context := hh.context
  have hcontexts : s'.driver.contexts = s.driver.contexts := hh.contexts
  have hregular := he.regular h.regular
  constructor
  · exact hregular
  · rw [hcontext]
    exact h.current
  · rw [hcontext, hcontexts]
    exact h.current_dated
  · rw [hcontexts]
    exact h.counted
  · rw [hcontexts]
    rcases hc with hc | hc <;> rw [hc]
    exacts [h.context_dated, h.current_dated]
  · intro purpose entry hentry
    rw [hcontexts]
    cases hentries purpose entry hentry with
    | kept hold => exact h.owner_dated purpose entry hold
    | made howner =>
      rw [howner]
      exact h.context_dated
  · intro hu purpose entry hentry
    -- the current context is no candidate
    have hu' : s.context = .uninitialized := by
      rcases hc with hc | hc
      · exact hc.symm.trans hu
      · have := h.current
        rw [← hc, hu] at this
        cases this
    cases hentries purpose entry hentry with
    | kept hold => exact h.unreported hu' purpose entry hold
    | made howner => exact howner.trans hu'
  · intro purpose owner p hentry
    cases hentries purpose _ hentry with
    | kept hold ho => exact (h.programs purpose owner p hold).keep hcontext he (ho p rfl)
    | made howner _ hnames hserves =>
      have hs := hserves p rfl
      have hnamed : s'.Names owner := by
        rw [names_congr hcontext, show owner = s.context from howner]
        exact hnames
      exact ⟨hs.located, hregular.name_le _ hs.live, fun _ => hs, fun hn => absurd hnamed hn⟩

/-- A step that keeps all entries and alters no program. -/
theorem keep (h : s.Stocked) (he : s.driver.objects.Edits s'.driver.objects)
    (hh : s.canvas.device.SameHost s'.canvas.device)
    (hc : s'.context = s.context ∨ s'.context = s.driver.context)
    (hp : s'.canvas.programs.cached? = s.canvas.programs.cached?)
    (ho : ∀ p : BuiltProgram, s.driver.objects.Live p.program.handle →
      s'.driver.objects.outline? p.program.handle =
        s.driver.objects.outline? p.program.handle) : s'.Stocked :=
  h.step he hh hc fun _ _ hentry => .kept (hp ▸ hentry) fun p _ => ho p

theorem grow (h : s.Stocked) {new : List Handle} (hc : s'.context = s.context)
    (hp : s'.canvas.programs.cached? = s.canvas.programs.cached?)
    (hg : s.canvas.device.Grows s'.canvas.device new) : s'.Stocked :=
  h.keep hg.edits hg.host (Or.inl hc) hp fun _ hl => hg.outline_of_live h.regular hl

theorem idle (h : s.Stocked) (hc : s'.context = s.context) (hi : s.canvas.Idles s'.canvas) :
    s'.Stocked :=
  h.grow hc hi.entries hi.grows

theorem work (h : s.Stocked) (hn : s.Names s.context) (hc : s'.context = s.context)
    (hw : ∃ new, s.canvas.Works s.context s'.canvas new) : s'.Stocked := by
  obtain ⟨new, hw⟩ := hw
  refine h.step hw.grows.edits hw.grows.host (Or.inl hc) fun purpose entry hentry => ?_
  rcases hw.gains.cached?_eq hentry with hold | ⟨howner, hserves⟩
  · exact .kept hold fun p _ hl => hw.grows.outline_of_live h.regular hl
  · exact .made howner hc hn hserves

/-- Objects other than programs are deleted. -/
theorem drop (h : s.Stocked) {gone : List Handle} (hc : s'.context = s.context)
    (hp : s'.canvas.programs.cached? = s.canvas.programs.cached?)
    (hd : s.canvas.device.Drops s'.canvas.device gone)
    (hg : ∀ x ∈ gone, x.kind ≠ .program) : s'.Stocked :=
  h.keep hd.edits hd.host (Or.inl hc) hp fun _ _ => hd.outline fun hmem => hg _ hmem rfl

/-! ## Operations -/

theorem destroy (h : s.Stocked) (size : Size) :
    Stocked { s with canvas := s.canvas.destroy, size := size } := by
  refine h.drop rfl rfl (s.canvas.backing.drops_destroy s.canvas.device).1 fun x hx => ?_
  cases hset : s.canvas.backing.set? with
  | none =>
    rw [hset] at hx
    cases hx
  | some set =>
    rw [hset] at hx
    exact (BufferSet.kind_of_mem_handles hx).2

/-- Giving everything up empties the cache. -/
theorem release (h : s.Stocked) : s.release.Stocked := by
  have hdrops := s.canvas.drops_releasePrograms s.context
  have hreleased : Stocked { s with canvas := s.canvas.releasePrograms s.context } :=
    h.step hdrops.edits hdrops.host (Or.inl rfl) nofun
  exact hreleased.destroy s.size

theorem adoptContext (h : s.Stocked) {context : Context} (hm : context = s.driver.context) :
    (s.adoptContext context).Stocked := by
  have hprograms := congrArg ProgramCache.cached? (s.programs_adoptContext context)
  refine h.keep ?_ ?_ (Or.inr hm) hprograms fun p _ => ?_
  · rw [driver_adoptContext]
    exact .refl
  · rw [device_adoptContext]
    exact .refl _
  · rw [driver_adoptContext]

theorem applySwapInterval (h : s.Stocked) : s.applySwapInterval.Stocked :=
  h.idle rfl (s.idles_applySwapInterval h.regular)

theorem setFrameRate (h : s.Stocked) (rate : Single) : (s.setFrameRate rate).2.Stocked :=
  setFrameRate_induct h (fun _ _ => h.idle rfl (.refl s.canvas)) fun _ h => h.applySwapInterval

theorem apply (h : s.Stocked) {e : Event}
    (hm : ∀ context, e = .adoptContext context → context = s.driver.context) :
    (s.apply e).Stocked := by
  cases e with
  | adoptContext context => exact h.adoptContext (hm context rfl)
  | resized size => exact h.destroy size
  | frameRate rate => exact h.setFrameRate rate
  | teardown => exact h.release

/-- No event changes the context of the driver. -/
theorem context_apply (s : Surface) (e : Event) :
    (s.apply e).driver.context = s.driver.context := by
  have hdestroy (c : Canvas) : c.destroy.device.driver.context = c.device.driver.context :=
    (c.backing.drops_destroy c.device).1.host.context
  cases e with
  | adoptContext context =>
    exact congrArg Driver.context (s.driver_adoptContext context)
  | resized size => exact hdestroy s.canvas
  | frameRate rate =>
    exact setFrameRate_induct (P := fun s₁ => s₁.driver.context = s.driver.context) rfl
      (fun _ _ => rfl) fun _ h => h
  | teardown =>
    exact (hdestroy _).trans (s.canvas.drops_releasePrograms s.context).host.context

theorem drain (h : s.Stocked)
    (hm : ∀ context, Event.adoptContext context ∈ s.pending → context = s.driver.context) :
    s.drain.Stocked := by
  refine (drain_induct (P := fun events s₁ => s₁.Stocked ∧
    ∀ context, Event.adoptContext context ∈ events → context = s₁.driver.context) ⟨h, hm⟩ ?_ ?_).1
  · rintro e events s₁ ⟨h, hm⟩
    refine ⟨h.apply fun context he => hm context (he ▸ List.mem_cons_self), fun context hc => ?_⟩
    rw [context_apply]
    exact hm context (List.mem_cons_of_mem _ hc)
  · exact fun _ h => ⟨h.1.idle rfl (.refl _), nofun⟩

theorem ensure (h : s.Stocked) {outcome : Except Failure Unit}
    (he : s.onCanvas (s.canvas.ensure s.order s.capabilities) = (outcome, s')) : s'.Stocked := by
  obtain ⟨b', e, hb, rfl⟩ := onCanvas_ensure he
  cases hserves : s.canvas.backing.serves s.order with
  | true =>
    rw [Backing.ensure_of_serves hserves] at hb
    cases hb
    exact h
  | false =>
    -- the old set goes first
    have h₁ : s.discarded.Stocked := by
      refine h.drop rfl rfl (s.canvas.backing.drops_discard s.context s.canvas.device).1 ?_
      intro x hx
      unfold Backing.spent at hx
      split at hx
      · cases hx
      · split at hx
        · exact (BufferSet.kind_of_mem_handles hx).2
        · cases hx
    obtain ⟨new, hgrows, -⟩ := Backing.grows_of_ensure h.regular hserves hb
    exact h₁.grow rfl rfl hgrows

theorem update (h : s.Stocked)
    (hm : ∀ context, Event.adoptContext context ∈ s.pending → context = s.driver.context) :
    s.update.2.Stocked := by
  refine update_induct (h.drain hm) ?_ ?_
  · exact fun _ h => h.applySwapInterval
  · exact fun _ _ _ h _ he => h.ensure he

theorem beginFrame (h : s.Stocked)
    (hm : ∀ context, Event.adoptContext context ∈ s.pending → context = s.driver.context) :
    s.beginFrame.2.Stocked := by
  have hupdated := h.update hm
  obtain ⟨-, hb⟩ | ⟨-, hb⟩ := s.beginFrame_cases
  · rwa [hb]
  · rw [hb]
    exact hupdated.idle rfl (Canvas.idles_beginFrame hupdated.regular)

theorem operate (h : s.Stocked) {op : Operation} (hm : s.Reports op) : (s.operate op).Stocked := by
  have hr := h.regular
  cases op with
  | openDrawable host =>
    obtain ⟨hcanvas, hcontext, -⟩ := s.openDrawable_eq host
    exact h.idle hcontext (by rw [Surface.operate, hcanvas]; exact .refl _)
  | adoptContext context => exact h.adoptContext hm
  | resize size => exact h.destroy size
  | setFrameRate rate => exact h.setFrameRate rate
  | send event => exact h.idle rfl (.refl _)
  | update => exact h.update hm
  | beginFrame => exact h.beginFrame hm
  | endFrame => exact h.work hm rfl (Canvas.works_endFrame hr s.size s.context)
  | fill color region => exact h.work hm rfl (Canvas.works_fill hr s.context s.size color region)
  | drawTexture patch => exact h.work hm rfl (Canvas.works_drawTexture hr s.context s.size patch)
  | readback => exact h.idle rfl (Canvas.idles_readback hr)
  | sampleColor x y => exact h.idle rfl (Canvas.idles_sampleColor hr s.size x y)
  | sampleDepth x y => exact h.idle rfl (Canvas.idles_sampleDepth hr s.size x y)
  | sampleStencil x y => exact h.idle rfl (Canvas.idles_sampleStencil hr s.size x y)
  | tearDown host => exact h.release.idle rfl (.refl _)

/-! ## Incidents -/

/-- An incident that leaves the context and the programs as they are. -/
theorem endure (h : s.Stocked) {i : Incident}
    (hc : (s.undergo i).driver.context = s.driver.context)
    (hn : s.driver.contexts ≤ (s.undergo i).driver.contexts)
    (he : s.driver.objects.Edits (s.undergo i).driver.objects)
    (ho : ∀ purpose owner p, s.canvas.programs.cached? purpose = some ⟨owner, .ok p⟩ →
      s.driver.objects.Live p.program.handle →
        (s.undergo i).driver.objects.outline? p.program.handle =
          s.driver.objects.outline? p.program.handle) : (s.undergo i).Stocked where
  regular := he.regular h.regular
  current := by
    rw [hc]
    exact h.current
  current_dated := by
    rw [hc]
    exact h.current_dated.mono hn
  counted := Nat.lt_of_lt_of_le h.counted hn
  context_dated := h.context_dated.mono hn
  owner_dated purpose entry hentry := (h.owner_dated purpose entry hentry).mono hn
  unreported := h.unreported
  programs purpose owner p hentry :=
    (h.programs purpose owner p hentry).keep hc he (ho purpose owner p hentry)

/-- When the context is lost no program is left, and no value that was noted names the new one. -/
theorem lose (h : s.Stocked) : (s.undergo .loseContext).Stocked := by
  have hn : s.driver.contexts ≤ (s.undergo .loseContext).driver.contexts := Nat.le_succ _
  have hobjects : (s.undergo .loseContext).driver.objects = .emptyAfter s.driver.objects.issued :=
    rfl
  refine ⟨Objects.regular_emptyAfter _, rfl, fun n hn => ?_, Nat.succ_pos _,
    h.context_dated.mono hn, fun purpose entry hentry =>
      (h.owner_dated purpose entry hentry).mono hn, h.unreported, fun purpose owner p hentry => ?_⟩
  · cases hn
    exact Nat.le_refl _
  · have hunnamed : ¬ (s.undergo .loseContext).Names owner := by
      rintro (howner | ⟨-, hfirst⟩)
      · exact ne_loseContext (h.owner_dated purpose _ hentry) howner
      · have hcounted := h.counted
        have hlast : s.driver.contexts + 1 = 1 := Context.live.inj hfirst
        omega
    refine ⟨(h.programs purpose owner p hentry).located, (h.programs purpose owner p hentry).issued,
      fun hnames => absurd hnames hunnamed, fun _ hl => ?_⟩
    rw [hobjects] at hl
    exact absurd rfl hl

theorem undergo (h : s.Stocked) {i : Incident} (ha : s.Spares i) : (s.undergo i).Stocked := by
  have hr := h.regular
  cases i with
  | call call =>
    exact h.endure (s.driver.context_perform call)
      (Nat.le_of_eq (s.driver.contexts_perform call).symm) (s.driver.edits_perform call)
      fun purpose owner p hentry _ => Driver.outline?_perform (ha purpose owner p hentry)
  | attempt what =>
    have hhost := s.canvas.device.sameHost_attempt what
    exact h.endure hhost.context (Nat.le_of_eq hhost.contexts.symm)
      (s.canvas.device.edits_attempt what) fun _ _ _ _ hl => Device.outline_attempt hr what hl
  | compile id source =>
    have hhost := s.canvas.device.sameHost_compile id source
    exact h.endure hhost.context (Nat.le_of_eq hhost.contexts.symm)
      (s.canvas.device.edits_compile id source)
      fun _ _ p _ _ => s.canvas.device.outline_compile source (p.program.handle_ne id nofun)
  | setFaults faults => exact h.endure rfl (Nat.le_refl _) .refl fun _ _ _ _ _ => rfl
  | pretend pretence => exact h.endure rfl (Nat.le_refl _) .refl fun _ _ _ _ _ => rfl
  | freshContext => exact h.endure rfl (Nat.le_succ _) .refl fun _ _ _ _ _ => rfl
  | loseContext => exact h.lose

end Stocked

/-- What is known of the contexts is known throughout every course in which new contexts are
reported and the programs are left alone. -/
theorem Course.stocked {profile : Profile} {settings : Settings} {policy : Policy}
    (h : Course Reports Spares (withPolicy profile settings policy) s) : s.Stocked := by
  induction h with
  | start => exact stocked_start profile settings policy
  | operate _ hm ih => exact ih.operate hm
  | undergo _ ha ih => exact ih.undergo ha

/-! ## Draws -/

namespace Stocked

variable {entry : CachedProgram}

/-- A program that is found was made under an identity of the current context, or before the first
report in a context that is gone. -/
theorem names_owner (h : s.Stocked) (hn : s.Names s.context)
    (hu : s.canvas.programs.usable? purpose s.context = some entry) :
    s.Names entry.owner ∨ s.Outlasts purpose := by
  obtain ⟨hcached, hcompatible⟩ := Option.filter_eq_some_iff.mp hu
  rcases hn with hcurrent | ⟨hnone, hfirst⟩
  · cases howner : entry.owner with
    | uninitialized =>
      by_cases hfirst : s.driver.context = .live 1
      · exact Or.inl (Or.inr ⟨rfl, hfirst⟩)
      · exact Or.inr ⟨hfirst, entry, hcached, howner⟩
    | live n =>
      rw [howner, Context.compatible_iff_of_isLive rfl (hcurrent ▸ h.current)] at hcompatible
      exact Or.inl (Or.inl (hcompatible.trans hcurrent))
  · exact Or.inl (Or.inr ⟨h.unreported hnone purpose entry hcached, hfirst⟩)

theorem provides (h : s.Stocked) (hn : s.Names s.context) (ho : ¬ s.Outlasts purpose) :
    s.canvas.programs.Provides purpose s.context s.driver.objects := by
  intro owner p hu
  have hcached := (Option.filter_eq_some_iff.mp hu).1
  exact (h.programs purpose owner p hcached).serves ((h.names_owner hn hu).resolve_right ho)

/-- What outlasted its context is found, and it is gone. -/
theorem gone_of_outlasts (h : s.Stocked) (ho : s.Outlasts purpose) :
    ∃ entry, s.canvas.programs.usable? purpose s.context = some entry ∧
      ∀ p, entry.outcome = .ok p →
        p.IsLocated purpose ∧ ¬ s.driver.objects.Live p.program.handle := by
  obtain ⟨hlost, entry, hcached, howner⟩ := ho
  refine ⟨entry, Option.filter_eq_some_iff.mpr ⟨hcached, ?_⟩, ?_⟩
  · rw [howner]
    rfl
  · intro p hp
    have hshelved := h.programs purpose .uninitialized p (by rw [hcached, ← hp, ← howner])
    refine ⟨hshelved.located, hshelved.gone ?_⟩
    rintro (hcurrent | ⟨-, hfirst⟩)
    · have := h.current
      rw [← hcurrent] at this
      cases this
    · exact hlost hfirst

end Stocked

/-- What comes of a draw that counts as done: its colour is on what is drawn to, by a program of
the current context, unless the program that is found outlasted its context. Then nothing is
painted. -/
structure Settles (s : Surface) (purpose : Purpose) (color? : Option Pixel) (s' : Surface) :
    Prop where
  shows : ¬ s.Outlasts purpose → ∀ color, color? = some color →
    s.driver.Shows color s'.driver
  supplies : ¬ s.Outlasts purpose → s'.Supplies purpose
  misses : s.Outlasts purpose → s.driver.SameView s'.driver

theorem settles_of_paints (h : s.Stocked) (hn : s.Names s.context) {color? : Option Pixel}
    {c' : Canvas} (hp : ¬ s.Outlasts purpose →
      s.canvas.Paints purpose s.context color? (true, c'))
    (hw : ∃ new, s.canvas.Works s.context c' new)
    (hv : s.Outlasts purpose → s.canvas.device.driver.SameView c'.device.driver) :
    s.Settles purpose color? { s with canvas := c' } := by
  refine ⟨?_, ?_, hv⟩
  · rintro ho color rfl
    cases hp ho with
    | done _ _ _ hview => exact Driver.shows_of_brush hview
  · intro ho
    obtain ⟨new, hw⟩ := hw
    cases hp ho with
    | @done _ owner p hcached howner hserves _ =>
      have hcontext : (driver { s with canvas := c' }).context = s.driver.context :=
        hw.grows.host.context
      refine ⟨owner, p, hcached, (names_congr hcontext owner).mpr ?_, hserves⟩
      -- the program was there before, or it was built for this draw
      rcases hw.gains.cached?_eq hcached with hold | ⟨hnew, -⟩
      · exact (h.names_owner hn (Option.filter_eq_some_iff.mpr ⟨hold, howner⟩)).resolve_right ho
      · rw [show owner = s.context from hnew]
        exact hn

theorem settles_fill (h : s.Stocked) (hn : s.Names s.context) {color : Rgba} {region : Rect}
    (hd : s.fill color region = (true, s')) : s.Settles .solid (some color.quantize) s' := by
  have hr := h.regular
  have hw := Canvas.works_fill hr s.context s.size color region
  rcases hc : s.canvas.fill s.context s.size color region with ⟨drawn, c'⟩
  rw [fill, hc] at hd
  cases hd
  rw [hc] at hw
  -- a draw that counts as done had something to draw
  have hsize : (s.size.isEmpty || region.isDegenerate) = false := by
    by_contra hempty
    rw [Canvas.fill_eq_skip (eq_true_of_ne_false hempty)] at hc
    cases hc
  refine settles_of_paints h hn (fun ho => ?_) hw fun ho => ?_
  · rw [← hc]
    exact Canvas.paints_fill hr (h.provides hn ho) hsize color
  · obtain ⟨entry, hu, hgone⟩ := h.gone_of_outlasts ho
    have hview := Canvas.misses_fill hu hgone s.size color region
    rwa [hc] at hview

theorem settles_drawTexture (h : s.Stocked) (hn : s.Names s.context) {patch : TexturePatch}
    (hd : s.drawTexture patch = (true, s')) :
    s.Settles (.textured patch.target) (s.canvas.textureColor? patch.texture) s' := by
  have hr := h.regular
  have hw := Canvas.works_drawTexture hr s.context s.size patch
  rcases hc : s.canvas.drawTexture s.context s.size patch with ⟨drawn, c'⟩
  rw [drawTexture, hc] at hd
  cases hd
  rw [hc] at hw
  have hsize : (s.size.isEmpty || patch.textureSize.isEmpty || patch.region.isDegenerate) =
      false := by
    by_contra hempty
    rw [Canvas.drawTexture_eq_skip (eq_true_of_ne_false hempty)] at hc
    cases hc
  refine settles_of_paints h hn (fun ho => ?_) hw fun ho => ?_
  · rw [← hc]
    exact Canvas.paints_drawTexture hr (h.provides hn ho) hsize
  · obtain ⟨entry, hu, hgone⟩ := h.gone_of_outlasts ho
    have hview := Canvas.misses_drawTexture hu hgone s.size
    rwa [hc] at hview

/-- In every course in which new contexts are reported and the programs are left alone, a draw that
counts as done paints its colour, where the colour mask lets it through, by a program of the current
context; only a program from before the first report that is found after its context was lost
paints nothing. -/
theorem settles_of_course {profile : Profile} {settings : Settings} {policy : Policy}
    (h : Course Reports Spares (withPolicy profile settings policy) s) (hn : s.Names s.context) :
    (∀ color region s', s.fill color region = (true, s') →
      s.Settles .solid (some color.quantize) s') ∧
    ∀ patch s', s.drawTexture patch = (true, s') →
      s.Settles (.textured patch.target) (s.canvas.textureColor? patch.texture) s' :=
  ⟨fun _ _ _ => settles_fill h.stocked hn, fun _ _ => settles_drawTexture h.stocked hn⟩

/-- A program from before the first report paints after it, and paints no more after the context was
lost, though the draw counts as done. -/
theorem settles_of_fill_before_report :
    let first := ((withPolicy .full .standard .never).operate (.resize ⟨4, 4⟩)).operate
      (.fill .transparent ⟨0, 0, 4, 4⟩)
    let s := first.operate (.adoptContext (.live 1))
    let t := (first.undergo .loseContext).operate (.adoptContext (.live 2))
    (∃ s', s.fill .opaqueBlack ⟨0, 0, 4, 4⟩ = (true, s') ∧
      s.driver.Shows Rgba.opaqueBlack.quantize s'.driver) ∧
    ∃ t', t.fill .opaqueBlack ⟨0, 0, 4, 4⟩ = (true, t') ∧ t.driver.SameView t'.driver := by
  intro first s t
  have hruns : first.driver.context = .live 1 ∧
      (first.undergo .loseContext).driver.context = .live 2 ∧
      (t.canvas.programs.cached? .solid).map (·.owner) = some .uninitialized ∧
      (s.fill .opaqueBlack ⟨0, 0, 4, 4⟩).1 = true ∧
      (t.fill .opaqueBlack ⟨0, 0, 4, 4⟩).1 = true := by decide +kernel
  obtain ⟨hfirst, hlost, howner, hs, ht⟩ := hruns
  have hdrawn {r : Surface} (h : (r.fill .opaqueBlack ⟨0, 0, 4, 4⟩).1 = true) :
      ∃ r', r.fill .opaqueBlack ⟨0, 0, 4, 4⟩ = (true, r') := ⟨_, Prod.ext h rfl⟩
  -- both courses, and the context that each surface notes
  have hresized : Course Reports Spares _
    ((withPolicy .full .standard .never).operate (.resize ⟨4, 4⟩)) := .operate .start trivial
  have hfilled : Course Reports Spares _ first := hresized.operate (Or.inr ⟨rfl, rfl⟩)
  have hkept : Course Reports Spares _ s :=
    @Course.operate _ _ _ first (.adoptContext (.live 1)) hfilled hfirst.symm
  have hgone : Course Reports Spares _ t :=
    @Course.operate _ _ _ (first.undergo .loseContext) (.adoptContext (.live 2))
      (hfilled.undergo trivial) hlost.symm
  have hadopted (r : Surface) (context : Context) :
      (r.adoptContext context).driver.context = r.driver.context :=
    Stocked.context_apply r (.adoptContext context)
  have hcurrent : s.driver.context = .live 1 := (hadopted first _).trans hfirst
  have hcurrent' : t.driver.context = .live 2 :=
    (hadopted (first.undergo .loseContext) _).trans hlost
  obtain ⟨s', hs'⟩ := hdrawn hs
  obtain ⟨t', ht'⟩ := hdrawn ht
  have hshown := (settles_of_course hkept (Or.inl hcurrent.symm)).1 _ _ _ hs'
  have hmissed := (settles_of_course hgone (Or.inl hcurrent'.symm)).1 _ _ _ ht'
  refine ⟨⟨s', hs', hshown.shows (fun ho => ho.1 hcurrent) _ rfl⟩, t', ht', hmissed.misses ?_⟩
  obtain ⟨entry, hcached, howner⟩ := Option.map_eq_some_iff.mp howner
  refine ⟨?_, entry, hcached, howner⟩
  rw [hcurrent']
  decide

end Surface

end Compositor
