import Compositor.Proofs.Surface.Moving

/-!
# The ledger of a surface

While the application makes and deletes no objects itself, the live objects of the driver are those
that the surface holds: the objects of its set and of its programs, as far as they belong to the
current context. Whatever fails on the way, nothing leaks and nothing is deleted twice.
-/

namespace Compositor

open Relation

namespace Surface

/-- The objects of the set, if its context is the current one. -/
def heldSet (s : Surface) : List Handle :=
  match s.canvas.backing.set? with
  | none => []
  | some set => if set.order.owner = s.driver.context then set.handles else []

/-- The objects that the surface has in the current context: those of its set, and for every program
the program and two shaders. -/
def holdings (s : Surface) : List Handle :=
  s.heldSet ++ s.canvas.programs.handles s.driver.context

/-- The live objects are those that the surface holds. -/
structure Balances (s : Surface) : Prop where
  live : ∀ x, s.driver.objects.Live x ↔ x ∈ s.holdings
  nodup : s.holdings.Nodup

variable {s s' : Surface}

theorem heldSet_congr (hb : s'.canvas.backing.set? = s.canvas.backing.set?)
    (hc : s'.driver.context = s.driver.context) : s'.heldSet = s.heldSet := by
  rw [heldSet, heldSet, hb, hc]

theorem heldSet_of_set? {set : BufferSet} (h : s.canvas.backing.set? = some set)
    (ho : set.order.owner = s.driver.context) : s.heldSet = set.handles := by
  rw [heldSet, h]
  exact if_pos ho

theorem heldSet_of_none (h : s.canvas.backing.set? = none) : s.heldSet = [] := by
  rw [heldSet, h]

/-- In step the set counts as a whole. -/
theorem heldSet_of_inStep (ht : s.Tracks) (hi : s.InStep) :
    s.heldSet = (s.canvas.backing.set?.map BufferSet.handles).getD [] := by
  cases h : s.canvas.backing.set? with
  | none => exact heldSet_of_none h
  | some set =>
    obtain ⟨howner, hl⟩ := ht.set set h
    exact heldSet_of_set? h (howner.trans (hi.context_eq hl))

/-- What the programs that can be released hold. -/
theorem handles_released (ht : s.Tracks) (hi : s.InStep) :
    (Purpose.all.filterMap fun p =>
      (s.canvas.programs.usable? p s.context).bind (·.built?)).flatMap BuiltProgram.handles =
        s.canvas.programs.handles s.driver.context := by
  rcases hi with h | h
  · -- before the first report there is nothing to release
    have hnone := ht.unreported h
    rw [ProgramCache.handles_eq_nil fun purpose entry he => by rw [hnone] at he; cases he]
    have hlist : (Purpose.all.filterMap fun p =>
        (s.canvas.programs.usable? p s.context).bind (·.built?)) = [] := by
      refine List.filterMap_eq_nil_iff.mpr fun purpose _ => ?_
      rw [ProgramCache.usable?, hnone]
      rfl
    rw [hlist]
    rfl
  · rw [h, ProgramCache.release_programs ht.programs ht.current]
    rfl

/-! ## Bookings -/

/-- What happens to the objects that are held: some come in, or some are deleted. -/
inductive Books (s s' : Surface) : Prop where
  | gains {new : List Handle} : s.canvas.device.Grows s'.canvas.device new →
    s'.holdings.Perm (new ++ s.holdings) → Books s s'
  | loses {calls : List Call} {gone : List Handle} :
    s'.canvas.device = s.canvas.device.performAll calls →
    calls.map Call.deletes? = gone.map some → s.holdings.Perm (gone ++ s'.holdings) → Books s s'

theorem books_of_device_eq (hd : s'.canvas.device = s.canvas.device)
    (hh : s'.holdings = s.holdings) : s.Books s' := by
  have hg : s.canvas.device.Grows s'.canvas.device [] := by
    rw [hd]
    exact .refl _
  exact .gains hg (.of_eq hh)

/-- A set of another context than the current one was not held. -/
theorem books_adopt (ht : s.Tracks) (hd : s'.canvas.device = s.canvas.device)
    (hp : s'.canvas.programs = s.canvas.programs)
    (hb : s'.canvas.backing.set? =
      if s.context = s.driver.context then s.canvas.backing.set? else none) : s.Books s' := by
  have hcontext : s'.driver.context = s.driver.context :=
    congrArg (fun d : Device => d.driver.context) hd
  refine books_of_device_eq hd ?_
  rw [holdings, holdings, hp, hcontext]
  congr 1
  -- only a set of the current context counts as held
  by_cases heq : s.context = s.driver.context
  · rw [if_pos heq] at hb
    exact heldSet_congr hb hcontext
  · rw [if_neg heq] at hb
    rw [heldSet_of_none hb, heldSet]
    cases hset : s.canvas.backing.set? with
    | none => rfl
    | some set =>
      dsimp only
      rw [(ht.set set hset).1, if_neg heq]

theorem books_destroy (ht : s.Tracks) (hi : s.InStep)
    (hcontext : s'.driver.context = s.driver.context)
    (hp : s'.canvas.programs = s.canvas.programs) (hb : s'.canvas.backing.set? = none)
    (hd : s'.canvas.device = match s.canvas.backing.set? with
      | none => s.canvas.device
      | some set => set.delete s.canvas.device) : s.Books s' := by
  have hheld := heldSet_of_inStep ht hi
  have hafter : s'.holdings = s.canvas.programs.handles s.driver.context := by
    rw [holdings, heldSet_of_none hb, hp, hcontext]
    rfl
  cases hset : s.canvas.backing.set? with
  | none =>
    rw [hset] at hd hheld
    refine books_of_device_eq hd ?_
    rw [hafter, holdings, hheld]
    rfl
  | some set =>
    rw [hset] at hd hheld
    refine .loses hd set.deletes?_parts ?_
    rw [hafter, holdings, hheld]
    exact .refl _

theorem books_release (ht : s.Tracks) (hi : s.InStep)
    (hcontext : s'.driver.context = s.driver.context)
    (hd : s'.canvas = s.canvas.releasePrograms s.context) : s.Books s' := by
  have hcalls := ProgramCache.deletes?_deletions (Purpose.all.filterMap fun p =>
    (s.canvas.programs.usable? p s.context).bind (·.built?))
  rw [handles_released ht hi] at hcalls
  -- what is left is the set
  have hafter : s'.holdings = s.heldSet := by
    have hnone : s'.canvas.programs.handles s'.driver.context = [] := by
      rw [hd]
      exact ProgramCache.handles_eq_nil nofun
    rw [holdings, hnone, List.append_nil]
    exact heldSet_congr (by rw [hd]; rfl) hcontext
  refine .loses ?_ hcalls ?_
  · rw [hd, ← ProgramCache.foldl_delete]
    rfl
  · rw [hafter]
    exact List.perm_append_comm

/-- Every move can be booked. -/
theorem Moves.books (hm : s.Moves s') (ht : s.Tracks) : s.Books s' := by
  have hcontext : s'.driver.context = s.driver.context := hm.host.context
  cases hm with
  | idles hc hs hi =>
    refine .gains hi.grows ?_
    rw [holdings, holdings, heldSet_congr hi.set hcontext, hcontext,
      ProgramCache.handles_congr hi.entries]
    exact .refl _
  | draws hd hc hs hw =>
    refine .gains hw.grows ?_
    -- what was made for the draw is a program of the current context
    have hp := (hd ▸ hw.gains).perm_handles ht.programs ht.current
    rw [holdings, holdings, heldSet_congr hw.set hcontext, hcontext]
    exact (hp.append_left _).trans (List.perm_append_comm_assoc _ _ _)
  | adopts hc hs hd hp hb => exact books_adopt ht hd hp hb
  | destroys hi hc hp hb hd => exact books_destroy ht hi hcontext hp hb hd
  | releases hi hc hs hd => exact books_release ht hi hcontext hd
  | fills hd hc hs hp hn hb hm =>
    refine .gains hm.grows ?_
    have howner := (congrArg Order.owner hm.order).trans (hd.trans hcontext.symm)
    rw [holdings, holdings, heldSet_of_set? hb howner, heldSet_of_none hn, hp, hcontext]
    exact .refl _

/-! ## The balance -/

namespace Balances

/-- Growth by what is held in addition. -/
theorem grow (h : s.Balances) (hr : s.driver.objects.Regular) {new : List Handle}
    (hg : s.canvas.device.Grows s'.canvas.device new)
    (hp : s'.holdings.Perm (new ++ s.holdings)) : s'.Balances where
  live x := by
    rw [hp.mem_iff, List.mem_append, ← h.live]
    exact (hg.live x).trans or_comm
  nodup := by
    rw [hp.nodup_iff]
    refine List.nodup_append'.mpr ⟨hg.nodup, h.nodup, fun x hx hheld => ?_⟩
    -- names of new objects are beyond those handed out before
    have hlt := hg.fresh x hx
    have hle := hr.name_le x ((h.live x).mpr hheld)
    exact absurd hlt (by simpa [driver] using hle)

/-- Deletion of a part of what is held. -/
theorem drop (h : s.Balances) {gone : List Handle}
    (hd : s.canvas.device.Drops s'.canvas.device gone)
    (hp : s.holdings.Perm (gone ++ s'.holdings)) : s'.Balances where
  live x := by
    have hn := List.nodup_append'.mp (hp.nodup_iff.mp h.nodup)
    have hx : s.driver.objects.Live x ↔ x ∈ gone ∨ x ∈ s'.holdings := by
      rw [h.live, hp.mem_iff, List.mem_append]
    refine (hd.live x).trans ?_
    rw [show s.canvas.device.Live x ↔ _ from hx]
    exact ⟨fun ⟨hor, hgone⟩ => hor.resolve_left hgone,
      fun hheld => ⟨Or.inr hheld, fun hgone => hn.2.2 hgone hheld⟩⟩
  nodup := (List.nodup_append'.mp (hp.nodup_iff.mp h.nodup)).2.1

/-- Deleting a part of what is held is orderly. -/
theorem deletions (h : s.Balances) {calls : List Call} {gone rest : List Handle}
    (hp : s.holdings.Perm (gone ++ rest)) (hc : calls.map Call.deletes? = gone.map some) :
    s.canvas.device.Orderly (s.canvas.device.performAll calls) := by
  have hn := List.nodup_append'.mp (hp.nodup_iff.mp h.nodup)
  refine s.canvas.device.orderly_deletions hc hn.1 fun x hx => ?_
  exact (h.live x).mpr (hp.mem_iff.mpr (List.mem_append_left _ hx))

/-- What is booked keeps the balance, and every deletion in it names a live object. -/
theorem book (h : s.Balances) (hr : s.driver.objects.Regular) (hb : s.Books s') :
    s'.Balances ∧ s.canvas.device.Orderly s'.canvas.device := by
  cases hb with
  | gains hg hp => exact ⟨h.grow hr hg hp, hg.orderly⟩
  | loses hd hc hp =>
    refine ⟨h.drop (hd ▸ s.canvas.device.drops_performAll hc) hp, ?_⟩
    rw [hd]
    exact h.deletions hp hc

theorem move (h : s.Balances) (ht : s.Tracks) (hm : s.Moves s') :
    s'.Balances ∧ s.canvas.device.Orderly s'.canvas.device :=
  h.book ht.regular (hm.books ht)

theorem moves (h : s.Balances) (ht : s.Tracks) (hm : ReflTransGen Moves s s') :
    s'.Balances ∧ s.canvas.device.Orderly s'.canvas.device := by
  induction hm with
  | refl => exact ⟨h, .refl⟩
  | tail hsteps hstep ih =>
    obtain ⟨hb, ho⟩ := ih
    obtain ⟨hb', ho'⟩ := hb.move (ht.moves hsteps) hstep
    exact ⟨hb', ho.trans ho'⟩

end Balances

/-! ## Incidents -/

/-- The application makes and deletes no objects itself. -/
def Abstains (_ : Surface) : Incident → Prop
  | .call call => call.creates? = none ∧ call.deletes? = none
  | .attempt _ => False
  | _ => True

/-- A lost context takes all objects along, and the surface holds none in the new one. -/
theorem Balances.loseContext (ht : s.Tracks) : (s.undergo .loseContext).Balances := by
  have hheld : (s.undergo .loseContext).heldSet = [] := by
    unfold heldSet
    cases hset : (s.undergo .loseContext).canvas.backing.set? with
    | none => rfl
    | some set =>
      dsimp only
      rw [(ht.set set hset).1, if_neg (ne_loseContext ht.context_dated)]
  have hprograms : (s.undergo .loseContext).canvas.programs.handles
      (s.undergo .loseContext).driver.context = [] :=
    ProgramCache.handles_eq_nil fun purpose entry he =>
      ne_loseContext (ht.programs_dated purpose entry he)
  have hholdings : (s.undergo .loseContext).holdings = [] := by
    rw [holdings, hheld, hprograms]
    rfl
  refine ⟨fun x => ?_, hholdings ▸ List.nodup_nil⟩
  rw [hholdings, List.mem_nil_iff, iff_false]
  obtain ⟨kind, name⟩ := x
  cases kind <;> exact fun hl => hl rfl

theorem Balances.undergo (h : s.Balances) (ht : s.Tracks) {i : Incident} (ha : s.Abstains i) :
    (s.undergo i).Balances := by
  have keep (hc : (s.undergo i).driver.context = s.driver.context)
      (hl : ∀ x, (s.undergo i).driver.objects.Live x ↔ s.driver.objects.Live x) :
      (s.undergo i).Balances := by
    have hholdings : (s.undergo i).holdings = s.holdings := by
      have hheld : (s.undergo i).heldSet = s.heldSet := heldSet_congr rfl hc
      rw [holdings, holdings, hheld, hc]
      rfl
    exact ⟨fun x => by rw [hl, hholdings, h.live], hholdings ▸ h.nodup⟩
  cases i with
  | call call =>
    exact keep (s.driver.context_perform call) (s.driver.live_perform_of_keeps ha.1 ha.2)
  | attempt what => cases ha
  | compile id source =>
    exact keep (s.canvas.device.sameHost_compile id source).context
      (s.canvas.device.live_compile id source)
  | setFaults faults => exact keep rfl fun _ => Iff.rfl
  | pretend pretence => exact keep rfl fun _ => Iff.rfl
  | freshContext => exact keep rfl fun _ => Iff.rfl
  | loseContext => exact .loseContext ht

theorem balances_start (profile : Profile) (settings : Settings) (policy : Policy) :
    (withPolicy profile settings policy).Balances where
  live x := by
    obtain ⟨kind, name⟩ := x
    cases kind <;> exact ⟨fun hl => absurd rfl hl, nofun⟩
  nodup := List.nodup_nil

theorem Run.balances (h : Run Abstains s) : s.Balances := by
  induction h with
  | start profile settings policy => exact balances_start profile settings policy
  | operate hrun hm ih => exact (ih.moves hrun.tracks (moves_operate hrun.tracks hm)).1
  | undergo hrun ha ih => exact ih.undergo hrun.tracks ha

/-! ## The ledger -/

/-- What the ledger of a surface says. -/
structure Ledger (s : Surface) : Prop where
  /-- The live objects of the driver, each listed once, are those that are held. -/
  objects : s.driver.objects.handles.Perm s.holdings
  nodup : s.driver.objects.handles.Nodup
  /-- In step the whole set is held: three objects, or five with multisampling. -/
  set : s.InStep → ∀ set, s.canvas.backing.set? = some set →
    s.heldSet = set.handles ∧ set.handles.length = if set.multisample.isSome then 5 else 3
  noSet : s.canvas.backing.set? = none → s.heldSet = []
  /-- Each program is held with two shaders. -/
  programs : ∀ x, x ∈ s.canvas.programs.handles s.driver.context ↔
    ∃ purpose p, s.canvas.programs.cached? purpose = some ⟨s.driver.context, .ok p⟩ ∧
      (x = p.program.handle ∨ x = p.vertex.handle ∨ x = p.fragment.handle)
  /-- Each deletion that the surface asks for names an object that is live at that moment. -/
  deletions : ∀ op, s.May op → s.canvas.device.Orderly (s.operate op).canvas.device
  /-- Giving everything up leaves no object. -/
  tornDown : s.InStep →
    (∀ host, (s.operate (.tearDown host)).driver.objects.handles = []) ∧
      (s.apply .teardown).driver.objects.handles = []

theorem Balances.handles_perm (h : s.Balances) (hr : s.driver.objects.Regular) :
    s.driver.objects.handles.Perm s.holdings :=
  hr.handles_perm h.nodup h.live

/-- After everything was given up nothing is held. -/
theorem holdings_release (s : Surface) : s.release.holdings = [] := by
  have hnone : s.release.canvas.backing.set? = none := Backing.set?_destroy _ _
  rw [holdings, heldSet_of_none hnone]
  exact ProgramCache.handles_eq_nil nofun

/-- The ledger of a surface is right throughout every run in which the application makes and deletes
no objects. -/
theorem ledger_of_run (h : Run Abstains s) : s.Ledger := by
  have ht := h.tracks
  have hb := h.balances
  refine ⟨hb.handles_perm ht.regular, ht.regular.nodup_handles, fun hi set hset => ⟨?_, ?_⟩,
    heldSet_of_none, fun x => ?_, fun op hm => (hb.moves ht (moves_operate ht hm)).2, fun hi => ?_⟩
  · rw [heldSet_of_inStep ht hi, hset]
    rfl
  · exact set.length_handles
  · simp only [ProgramCache.handles, List.mem_flatMap, ProgramCache.mem_owned_iff,
      BuiltProgram.handles, List.mem_cons, List.mem_nil_iff, or_false]
    constructor
    · rintro ⟨p, ⟨purpose, he⟩, hx⟩
      exact ⟨purpose, p, he, hx⟩
    · rintro ⟨purpose, p, he, hx⟩
      exact ⟨p, ⟨purpose, he⟩, hx⟩
  · have hmoves := moves_release hi
    have hperm := (hb.moves ht hmoves).1.handles_perm (ht.moves hmoves).regular
    rw [holdings_release] at hperm
    exact ⟨fun _ => hperm.eq_nil, hperm.eq_nil⟩

/-- A surface that has made its first set, of two samples. -/
theorem ledger_of_first_update :
    let s := (((withPolicy .full .standard .always).operate (.adoptContext (.live 1))).operate
      (.resize ⟨4, 4⟩)).operate .update
    Run Abstains s ∧ s.driver.objects.count = 5 ∧ s.Ledger := by
  have hresized := Run.reported Abstains .full .standard .always ⟨4, 4⟩
  have hupdated : Run Abstains ((((withPolicy .full .standard .always).operate
      (.adoptContext (.live 1))).operate (.resize ⟨4, 4⟩)).operate .update) :=
    hresized.operate ⟨trivial, Or.inr rfl⟩
  exact ⟨hupdated, by decide +kernel, ledger_of_run hupdated⟩

end Surface

end Compositor
