import Compositor.Proofs.Scheduler.Turning
import Compositor.Proofs.Trail
import Mathlib.Algebra.BigOperators.Group.List.Basic
import Mathlib.Algebra.GroupWithZero.Nat

/-!
# Accounts of requests

What becomes of the requests that a scheduler grants. Along any run each of them is in one place:
its frame was completed, it was folded into another one, it waits in the slot of its worker, the
worker has it in hand, or it was discarded. As long as the worker was not told to stop none is
discarded, and over its whole life at most two are: the one in hand and the one in the slot.
-/

namespace Compositor

/-! ## Accounts of a worker -/

/-- How many requests are lost at most when a worker has come that far. -/
def Activity.lossLimit : Activity → Nat
  | waiting | holding | drawing => 0
  | leaving => 1
  | gone => 2

namespace Worker

variable {w w' : Worker} {c : Change}

/-- Every request that was granted is accounted for. -/
structure Accounted (w : Worker) : Prop where
  balance : w.ledger.accepted = w.ledger.completed + w.ledger.coalesced + w.pending.toNat +
    w.holds.toNat + w.ledger.discarded
  lost : w.ledger.discarded ≤ w.activity.lossLimit

/-- While it was not told to stop it is at work. -/
def IsEngaged (w : Worker) : Prop := w.running = true → w.activity.lossLimit = 0

theorem accounted_fresh (faulty : Bool) : (fresh faulty).Accounted := ⟨rfl, Nat.le_refl _⟩

/-- A worker is done before it has lost more than one request. -/
theorem lossLimit_of_isDone (h : w.isDone = true) :
    w.holds = false ∧ w.activity.lossLimit ≤ 1 := by
  simp only [isDone, Bool.or_eq_true, Bool.and_eq_true, decide_eq_true_eq] at h
  rcases h with h | ⟨h, -⟩ <;> simp [holds, h, Activity.lossLimit]

theorem Moves.accounted (h : w.Moves c w') (ha : w.Accounted) : w'.Accounted := by
  obtain ⟨hb, hl⟩ := ha
  have hslot := Bool.toNat_le w.pending
  cases h with
  | accept _ hp =>
    rw [hp, Bool.toNat_false] at hb
    refine ⟨?_, hl⟩
    show w.ledger.accepted + 1 =
      w.ledger.completed + w.ledger.coalesced + 1 + w.holds.toNat + w.ledger.discarded
    omega
  | fold _ hp =>
    refine ⟨?_, hl⟩
    show w.ledger.accepted + 1 = w.ledger.completed + (w.ledger.coalesced + 1) + w.pending.toNat +
      w.holds.toNat + w.ledger.discarded
    omega
  | take hw hp =>
    simp only [hw, hp, holds, Activity.lossLimit] at hb hl
    constructor <;> simp [Worker.take, hw, hp, holds, Activity.lossLimit] at hb ⊢ <;> omega
  | enter hh hr =>
    simp only [hh, holds, Activity.lossLimit] at hb hl
    constructor <;> simp [Worker.enter, hr, note, holds, Activity.lossLimit] at hb ⊢ <;> omega
  | drop hh hr =>
    simp only [hh, holds, Activity.lossLimit] at hb hl
    constructor <;> simp [Worker.enter, hr, note, holds, Activity.lossLimit] at hb ⊢ <;> omega
  | complete hd =>
    simp only [hd, holds, Activity.lossLimit] at hb hl
    cases hr : w.running <;> constructor <;>
      simp [Worker.complete, hr, note, holds, Activity.lossLimit] at hb ⊢ <;> omega
  | breakOff hd =>
    simp only [hd, holds, Activity.lossLimit] at hb hl
    constructor <;> simp [quit, note, holds, Activity.lossLimit] at hb ⊢ <;> omega
  | leave hd =>
    obtain ⟨hh, hlimit⟩ := lossLimit_of_isDone hd
    rw [hh] at hb
    constructor <;> simp [quit, note, holds, Activity.lossLimit] at hb ⊢ <;> omega
  | halt => exact ⟨hb, hl⟩

/-- Unless its frame breaks off, a worker stays at work until it is told to stop. -/
theorem Moves.isEngaged (h : w.Moves c w') (hc : c ≠ .breakOff) (he : w.IsEngaged) :
    w'.IsEngaged := by
  intro hr
  rw [h.running, Bool.and_eq_true] at hr
  have hlimit := he hr.1
  cases h with
  | accept | fold => exact hlimit
  | take hw hp => simp [Worker.take, hw, hp, Activity.lossLimit]
  | enter hh hrun => simp [Worker.enter, hrun, note, Activity.lossLimit]
  | drop hh hrun =>
    rw [hrun] at hr
    cases hr.1
  | complete hd => simp [Worker.complete, hr.1, note, Activity.lossLimit]
  | breakOff hd => exact absurd rfl hc
  | leave hd =>
    -- what is done is leaving or was told to stop
    simp only [isDone, Bool.or_eq_true, Bool.and_eq_true, decide_eq_true_eq, hr.1] at hd
    rcases hd with hd | ⟨-, hd⟩
    · rw [hd] at hlimit
      cases hlimit
    · cases hd
  | halt => cases hr.2

/-- What is put down in the ledger for a change. -/
theorem Moves.counted (h : w.Moves c w') :
    w'.ledger.accepted = w.ledger.accepted + c.isGrant.toNat ∧
      w'.ledger.completed = w.ledger.completed + (decide (c = .complete)).toNat ∧
      w'.ledger.coalesced = w.ledger.coalesced + (decide (c = .fold)).toNat := by
  cases h with
  | take hw hp => simp [Worker.take, hw, hp, Change.isGrant]
  | enter hh hr => simp [Worker.enter, hr, note, Change.isGrant]
  | drop hh hr => simp [Worker.enter, hr, note, Change.isGrant]
  | _ => simp [note, Worker.complete, quit, Change.isGrant]

end Worker

namespace Scheduler

variable {s s' : Scheduler}

/-! ## Accounts of all workers -/

theorem sum_map_set {α : Type} {l : List α} {k : Nat} {a : α} (h : l[k]? = some a) (b : α)
    (f : α → Nat) : ((l.set k b).map f).sum + f a = (l.map f).sum + f b := by
  induction l generalizing k with
  | nil => cases h
  | cons x l ih =>
    cases k with
    | zero =>
      cases h
      simp only [List.set_cons_zero, List.map_cons, List.sum_cons]
      omega
    | succ k =>
      have := ih h
      simp only [List.set_cons_succ, List.map_cons, List.sum_cons]
      omega

/-- All workers are accounted for, and what they count together is what the scheduler counts. -/
structure Accounted (s : Scheduler) : Prop where
  workers : ∀ (k : Nat) (w : Worker), s.workers[k]? = some w → w.Accounted
  frames : s.frames = (s.workers.map (·.ledger.completed)).sum
  coalesced : s.coalesced = (s.workers.map (·.ledger.coalesced)).sum

theorem accounted_idle (timing : Timing) : (idle timing).Accounted := ⟨nofun, rfl, rfl⟩

theorem Turns.accounted {step : Step} (ht : s.Turns step s') (h : s.Accounted) :
    s'.Accounted := by
  have hworkers (k : Nat) (w' : Worker) (hw' : s'.workers[k]? = some w') : w'.Accounted := by
    rcases ht.worker hw' with hw | ⟨faulty, rfl⟩ | ⟨w, c, hw, hm, -⟩
    · exact h.workers k w' hw
    · exact Worker.accounted_fresh faulty
    · exact hm.accounted (h.workers k w hw)
  cases ht with
  | idle _ he => rwa [he]
  | start faulty _ _ he =>
    subst he
    refine ⟨hworkers, ?_, ?_⟩
    · simpa [Worker.fresh] using h.frames
    · simpa [Worker.fresh] using h.coalesced
  | @change k w w' c hw hm hb hset hcurrent hframes hcoalesced =>
    obtain ⟨-, hcompleted, hfolded⟩ := hm.counted
    refine ⟨hworkers, ?_, ?_⟩
    · have := sum_map_set hw w' (·.ledger.completed)
      rw [hframes, hset, h.frames]
      omega
    · have := sum_map_set hw w' (·.ledger.coalesced)
      rw [hcoalesced, hset, h.coalesced]
      omega

/-! ## What a run shows -/

/-- A step asks worker `k` for a frame and is answered with yes. -/
def grants (k : Nat) (e : Scheduler × Step) : Bool :=
  e.1.addressee? e.2 = some k && e.1.answer e.2

/-- A step asks worker `k` for a frame and is counted as folded into another request. -/
def folds (k : Nat) (e : Scheduler × Step) : Bool :=
  e.1.addressee? e.2 = some k && e.1.coalesced < (e.1.step e.2).coalesced

/-- Worker `k` completes a frame. -/
def completes (k : Nat) (e : Scheduler × Step) : Bool :=
  e.2 = .complete k && e.1.frames < (e.1.step e.2).frames

/-- What the ledger of worker `k` says; nothing before it is started. -/
def entry (f : Ledger → Nat) (k : Nat) (s : Scheduler) : Nat :=
  (s.workers[k]?).elim 0 fun w => f w.ledger

/-- A number of the ledger of worker `j` that goes up by one with certain changes goes up by one
with the steps that bring them about. -/
theorem Turns.entry {step : Step} (ht : s.Turns step s') {f : Ledger → Nat} {p : Change → Bool}
    {j : Nat} {seen : Bool} (hfresh : f ⟨0, 0, 0, 0, 0⟩ = 0)
    (hf : ∀ {w w' : Worker} {c : Change}, w.Moves c w' →
      f w'.ledger = f w.ledger + (p c).toNat)
    (hidle : s.answer step = false → s'.frames = s.frames → s'.coalesced = s.coalesced →
      seen = false)
    (hchange : ∀ k c, s.Brings step k c →
      s'.frames = s.frames + (decide (c = .complete)).toNat →
      s'.coalesced = s.coalesced + (decide (c = .fold)).toNat →
      seen = (decide (k = j) && p c)) :
    entry f j s' = entry f j s + seen.toNat := by
  cases ht with
  | idle ha he =>
    subst he
    rw [hidle ha rfl rfl]
    rfl
  | start faulty ha _ he =>
    subst he
    rw [hidle ha rfl rfl, Scheduler.entry, Scheduler.entry, List.getElem?_append]
    split
    · rfl
    · rename_i hj
      rw [List.getElem?_eq_none (Nat.le_of_not_lt hj)]
      cases hw : [Worker.fresh faulty][j - s.workers.length]? with
      | none => rfl
      | some w =>
        obtain rfl := List.mem_singleton.mp (List.mem_of_getElem? hw)
        exact hfresh
  | @change k w w' c hw hm hb hworkers hcurrent hframes hcoalesced =>
    have hk := (List.getElem?_eq_some_iff.mp hw).1
    rw [hchange k c hb hframes hcoalesced, Scheduler.entry, Scheduler.entry, hworkers,
      List.getElem?_set]
    by_cases hj : k = j
    · subst hj
      rw [if_pos rfl, if_pos hk, hw]
      simpa using hf hm
    · simp [hj]

theorem entry_accepted (h : s.IsSteered) (step : Step) (k : Nat) :
    entry (·.accepted) k (s.step step) = entry (·.accepted) k s + (grants k (s, step)).toNat := by
  refine (turns_step h step).entry (p := Change.isGrant) rfl (fun hm => hm.counted.1) ?_ ?_
  · intro ha _ _
    simp [grants, ha]
  · intro j c hb _ _
    rw [grants, hb.answer]
    cases hg : c.isGrant with
    | false => simp
    | true => simp [hb.addressee hg]

theorem entry_completed (h : s.IsSteered) (step : Step) (k : Nat) :
    entry (·.completed) k (s.step step) =
      entry (·.completed) k s + (completes k (s, step)).toNat := by
  refine (turns_step h step).entry (p := fun c => decide (c = .complete)) rfl
    (fun hm => hm.counted.2.1) ?_ ?_
  · intro _ hframes _
    simp [completes, hframes]
  · intro j c hb hframes _
    rw [completes]
    dsimp only
    rw [hframes]
    by_cases hc : c = .complete
    · simp [hc, hb.complete hc]
    · simp [hc]

theorem entry_coalesced (h : s.IsSteered) (step : Step) (k : Nat) :
    entry (·.coalesced) k (s.step step) = entry (·.coalesced) k s + (folds k (s, step)).toNat := by
  refine (turns_step h step).entry (p := fun c => decide (c = .fold)) rfl
    (fun hm => hm.counted.2.2) ?_ ?_
  · intro _ _ hcoalesced
    simp [folds, hcoalesced]
  · intro j c hb _ hcoalesced
    by_cases hc : c = .fold
    · simp [folds, hcoalesced, hc, hb.addressee (by rw [hc]; rfl)]
    · simp [folds, hcoalesced, hc]

/-- How often something happens in a run of a new scheduler. -/
def times (timing : Timing) (steps : List Step) (p : Scheduler × Step → Bool) : Nat :=
  (trail step (idle timing) steps).countP p

theorem accounted_run (timing : Timing) (steps : List Step) :
    ((idle timing).run steps).Accounted := by
  have hrun : ((idle timing).run steps).IsSteered ∧ ((idle timing).run steps).Accounted :=
    List.foldlRecOn (motive := fun s : Scheduler => s.IsSteered ∧ s.Accounted) steps _
      ⟨isSteered_idle timing, accounted_idle timing⟩
      fun s h a _ => ⟨h.1.step a, (turns_step h.1 a).accounted h.2⟩
  exact hrun.2

/-- The ledger of a worker tells what the run shows. -/
theorem ledger_run {timing : Timing} {steps : List Step} {k : Nat} {w : Worker}
    (hw : ((idle timing).run steps).workers[k]? = some w) :
    w.ledger.accepted = times timing steps (grants k) ∧
      w.ledger.completed = times timing steps (completes k) ∧
      w.ledger.coalesced = times timing steps (folds k) := by
  have hstart (f : Ledger → Nat) : entry f k (idle timing) = 0 := rfl
  have hentry (f : Ledger → Nat) : entry f k ((idle timing).run steps) = f w.ledger := by
    rw [entry, hw]
    rfl
  have hsteered := isSteered_idle timing
  have hkeep (s : Scheduler) (step : Step) (h : s.IsSteered) : (s.step step).IsSteered :=
    h.step step
  refine ⟨?_, ?_, ?_⟩
  · have := count_trail hkeep (fun s step h => entry_accepted h step k) hsteered steps
    rwa [hstart, Nat.zero_add, ← run, hentry] at this
  · have := count_trail hkeep (fun s step h => entry_completed h step k) hsteered steps
    rwa [hstart, Nat.zero_add, ← run, hentry] at this
  · have := count_trail hkeep (fun s step h => entry_coalesced h step k) hsteered steps
    rwa [hstart, Nat.zero_add, ← run, hentry] at this

/-- What all workers count, by their numbers. -/
theorem sum_workers {timing : Timing} {steps : List Step} {f : Ledger → Nat} {g : Nat → Nat}
    (h : ∀ k w, ((idle timing).run steps).workers[k]? = some w → f w.ledger = g k) :
    (((idle timing).run steps).workers.map fun w => f w.ledger).sum =
      ((List.range ((idle timing).run steps).workers.length).map g).sum := by
  congr 1
  refine List.ext_getElem (by simp) fun k hk _ => ?_
  rw [List.length_map] at hk
  simpa using h k _ (List.getElem?_eq_getElem hk)

/-- A worker none of whose frames broke off is at work until it is told to stop. -/
theorem isEngaged_run (timing : Timing) {steps : List Step} {k : Nat}
    (hb : .breakOff k ∉ steps) (w : Worker)
    (hw : ((idle timing).run steps).workers[k]? = some w) : w.IsEngaged := by
  refine forall_worker_run (P := Worker.IsEngaged) timing (fun _ _ => rfl) ?_ hw
  exact fun _ _ _ hm hc => hm.isEngaged fun he => hb (hc he)

/-- In every run, each request that was granted is accounted for, worker by worker: its frame was
completed, it was folded into another one, it is in the slot or in hand, or it was discarded. None
is discarded while the worker is not told to stop, unless a frame of it breaks off, and never more
than two. What the scheduler counts is what its workers come to together, and it starts no second
worker. -/
theorem accounts_of_run (timing : Timing) (steps : List Step) :
    let s := (idle timing).run steps
    (∀ k w, s.workers[k]? = some w →
      times timing steps (grants k) = times timing steps (completes k) +
        times timing steps (folds k) + w.pending.toNat + w.holds.toNat + w.ledger.discarded ∧
      (s.current = some k ↔ w.running = true) ∧
      (w.running = true → .breakOff k ∉ steps → w.ledger.discarded = 0) ∧
      w.ledger.discarded ≤ 2) ∧
    s.frames = ((List.range s.workers.length).map fun k => times timing steps (completes k)).sum ∧
    s.coalesced = ((List.range s.workers.length).map fun k => times timing steps (folds k)).sum ∧
    ∀ faulty, s.current.isSome = true →
      s.start faulty = (.error (.scheduler "scheduler already started"), s) := by
  intro s
  have haccounted : s.Accounted := accounted_run timing steps
  refine ⟨fun k w hw => ?_, ?_, ?_, fun faulty hc => by simp [start, hc]⟩
  · obtain ⟨hgrants, hcompletes, hfolds⟩ := ledger_run hw
    obtain ⟨hbalance, hlost⟩ := haccounted.workers k w hw
    refine ⟨?_, ?_, fun hr hb => ?_, ?_⟩
    · rw [← hgrants, ← hcompletes, ← hfolds]
      exact hbalance
    · rw [isSteered_run timing steps k, runs, hw, Option.any_some]
    · have hlimit := isEngaged_run timing hb w hw hr
      omega
    · have hlimit : w.activity.lossLimit ≤ 2 := by
        cases w.activity <;> decide
      omega
  · rw [haccounted.frames]
    exact sum_workers fun k w hw => (ledger_run hw).2.1
  · rw [haccounted.coalesced]
    exact sum_workers fun k w hw => (ledger_run hw).2.2

end Scheduler

end Compositor
