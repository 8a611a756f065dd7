import Compositor.Scheduler.Basic
import Mathlib.Data.List.Basic

/-!
# Turns of a scheduler

What a step comes to. It does nothing, it starts a worker, or it changes one worker in one of a few
ways (`Worker.Moves`). What holds of the workers of a scheduler is proved once for each way.
-/

namespace Compositor

/-- The ways in which a worker is changed. -/
inductive Change where
  /-- A request is put into the free slot. -/
  | accept
  /-- A request is folded into the one that waits. -/
  | fold
  | take
  /-- A frame begins. -/
  | enter
  /-- The request in hand is dropped, as the worker was told to stop. -/
  | drop
  | complete
  | breakOff
  | leave
  /-- The worker is told to stop. -/
  | halt
deriving DecidableEq

/-- Whether the change comes of a request that is answered with yes. -/
def Change.isGrant : Change → Bool
  | accept | fold => true
  | _ => false

namespace Worker

/-- Whether it took a request that it is not through with. -/
def holds (w : Worker) : Bool := w.activity = .holding || w.activity = .drawing

/-- The worker is changed to `w'`. -/
inductive Moves (w : Worker) : Change → Worker → Prop where
  | accept : w.activity ≠ .gone → w.pending = false →
    Moves w .accept ({ w with pending := true }.note fun l => { l with accepted := l.accepted + 1 })
  | fold : w.activity ≠ .gone → w.pending = true →
    Moves w .fold (w.note fun l =>
      { l with accepted := l.accepted + 1, coalesced := l.coalesced + 1 })
  | take : w.activity = .waiting → w.pending = true → Moves w .take w.take
  | enter : w.activity = .holding → w.running = true → Moves w .enter w.enter
  | drop : w.activity = .holding → w.running = false → Moves w .drop w.enter
  | complete : w.activity = .drawing → Moves w .complete w.complete
  | breakOff : w.activity = .drawing → Moves w .breakOff (w.quit 1)
  | leave : w.isDone = true → Moves w .leave (w.quit 0)
  | halt : Moves w .halt { w with running := false }

variable {w w' : Worker} {c : Change}

/-- Only a stop tells a worker to stop. -/
theorem Moves.running (h : w.Moves c w') : w'.running = (w.running && c ≠ .halt) := by
  cases h with
  | take hw hp => simp [Worker.take, hw, hp]
  | enter hh hr => simp [Worker.enter, hr, note]
  | drop hh hr => simp [Worker.enter, hr, note]
  | _ => simp [note, Worker.complete, quit]

theorem request_of_gone (h : w.activity = .gone) : w.request = (false, w) := if_pos h

/-- A request to a worker whose slot is open is granted. -/
theorem moves_request (h : w.activity ≠ .gone) :
    w.request.1 = true ∧ w.Moves (if w.coalesces then .fold else .accept) w.request.2 := by
  unfold request coalesces
  rw [if_neg h]
  cases hp : w.pending with
  | true => simpa [h] using Moves.fold h hp
  | false => simpa using Moves.accept h hp

end Worker

namespace Scheduler

/-- The scheduler with another worker under a number. -/
def put (s : Scheduler) (k : Nat) (w : Worker) : Scheduler :=
  { s with workers := s.workers.set k w }

/-- The worker that a step asks for a frame. -/
def addressee? (s : Scheduler) : Step → Option Nat
  | .request => s.current
  | .requestFrom k => some k
  | _ => none

/-- The answer to a step that asks for a frame. -/
def answer (s : Scheduler) : Step → Bool
  | .request => s.request.1
  | .requestFrom k => (s.requestFrom k).1
  | _ => false

/-- The step brings about a change of worker `k`. -/
structure Brings (s : Scheduler) (step : Step) (k : Nat) (c : Change) : Prop where
  answer : s.answer step = c.isGrant
  addressee : c.isGrant = true → s.addressee? step = some k
  complete : c = .complete → step = .complete k
  breakOff : c = .breakOff → step = .breakOff k
  halt : c = .halt → s.current = some k

/-- What a step comes to. -/
inductive Turns (s : Scheduler) (step : Step) (s' : Scheduler) : Prop where
  | idle : s.answer step = false → s' = s → Turns s step s'
  | start (faulty : Bool) : s.answer step = false → s.current = none →
    s' = { s with workers := s.workers ++ [.fresh faulty], current := some s.workers.length } →
    Turns s step s'
  | change {k : Nat} {w w' : Worker} {c : Change} : s.workers[k]? = some w → w.Moves c w' →
    s.Brings step k c → s'.workers = s.workers.set k w' →
    s'.current = (if c = .halt then none else s.current) →
    s'.frames = s.frames + (decide (c = .complete)).toNat →
    s'.coalesced = s.coalesced + (decide (c = .fold)).toNat → Turns s step s'

variable {s : Scheduler} {k : Nat} {w : Worker}

theorem modifyWorker_eq (h : s.workers[k]? = some w) (f : Worker → Worker) :
    s.modifyWorker k f = s.put k (f w) := by
  rw [modifyWorker, put, List.modify_eq_set_getElem?, h]
  rfl

theorem modifyWorker_of_none (h : s.workers[k]? = none) (f : Worker → Worker) :
    s.modifyWorker k f = s := by
  rw [modifyWorker, List.modify_eq_set_getElem?, h]
  rfl

theorem put_self (h : s.workers[k]? = some w) : s.put k w = s := by
  obtain ⟨hk, rfl⟩ := List.getElem?_eq_some_iff.mp h
  rw [put, List.set_getElem_self]

/-- The workers after a start. -/
theorem getElem?_started (s : Scheduler) (faulty : Bool) (k : Nat) :
    (s.workers ++ [Worker.fresh faulty])[k]? =
      if k = s.workers.length then some (.fresh faulty) else s.workers[k]? := by
  split
  · rename_i hk
    rw [hk, List.getElem?_concat_length]
  · rename_i hk
    rcases Nat.lt_or_gt_of_ne hk with hlt | hgt
    · exact List.getElem?_append_left hlt
    · have hlater : (s.workers ++ [Worker.fresh faulty]).length ≤ k := by
        rw [List.length_append, List.length_singleton]
        exact hgt
      rw [List.getElem?_eq_none hlater, List.getElem?_eq_none (Nat.le_of_lt hgt)]

/-- A request to a worker is granted as long as its slot is open. -/
theorem turns_requestFrom {step : Step} (hk : s.addressee? step = some k)
    (ha : s.answer step = (s.requestFrom k).1) : s.Turns step (s.requestFrom k).2 := by
  unfold requestFrom at ha ⊢
  cases hw : s.workers[k]? with
  | none =>
    rw [hw] at ha
    exact .idle ha rfl
  | some w =>
    rw [hw] at ha
    dsimp only at ha ⊢
    rw [modifyWorker_eq hw]
    by_cases hg : w.activity = .gone
    · have hc : w.coalesces = false := by simp [Worker.coalesces, hg]
      rw [Worker.request_of_gone hg] at ha ⊢
      rw [hc, put_self hw]
      exact .idle ha rfl
    · obtain ⟨hyes, hmoves⟩ := Worker.moves_request hg
      rw [hyes] at ha
      refine .change hw hmoves ⟨?_, fun _ => hk, ?_, ?_, ?_⟩ ?_ ?_ ?_ ?_ <;>
        cases w.coalesces <;> first | exact ha | rfl | nofun

theorem turns_start (s : Scheduler) (faulty : Bool) :
    s.Turns (.start faulty) (s.start faulty).2 := by
  cases hc : s.current with
  | none =>
    refine .start faulty rfl hc ?_
    simp [start, hc]
  | some k =>
    refine .idle rfl ?_
    simp [start, hc]

/-- A request goes to the worker that runs, if one does. -/
theorem turns_request (s : Scheduler) : s.Turns .request s.request.2 := by
  cases hc : s.current with
  | none => exact .idle (by simp [answer, request, hc]) (by simp [request, hc])
  | some k =>
    cases hr : s.isRunning with
    | true =>
      have he : s.request = s.requestFrom k := by simp [request, hc, hr]
      rw [he]
      exact turns_requestFrom hc (congrArg Prod.fst he)
    | false => exact .idle (by simp [answer, request, hc, hr]) (by simp [request, hc, hr])

theorem turns_take (s : Scheduler) (k : Nat) : s.Turns (.take k) (s.take k) := by
  unfold take
  cases hw : s.workers[k]? with
  | none => exact .idle rfl (modifyWorker_of_none hw _)
  | some w =>
    rw [modifyWorker_eq hw]
    by_cases hg : w.activity = .waiting ∧ w.pending = true
    · exact .change hw (.take hg.1 hg.2) ⟨rfl, nofun, nofun, nofun, nofun⟩ rfl rfl rfl rfl
    · rw [Worker.take, if_neg hg, put_self hw]
      exact .idle rfl rfl

theorem turns_enter (s : Scheduler) (k : Nat) : s.Turns (.enter k) (s.enter k) := by
  unfold enter
  split
  · rename_i w hw _
    split
    · rename_i hh
      rw [modifyWorker_eq hw]
      cases hr : w.running with
      | true => exact .change hw (.enter hh hr) ⟨rfl, nofun, nofun, nofun, nofun⟩ rfl rfl rfl rfl
      | false => exact .change hw (.drop hh hr) ⟨rfl, nofun, nofun, nofun, nofun⟩ rfl rfl rfl rfl
    · exact .idle rfl rfl
  · exact .idle rfl rfl

theorem turns_complete (s : Scheduler) (k : Nat) : s.Turns (.complete k) (s.complete k) := by
  unfold complete
  split
  · rename_i hd
    obtain ⟨w, hw, hd⟩ := (Option.any_eq_true _ _).mp hd
    rw [modifyWorker_eq hw]
    exact .change hw (.complete (of_decide_eq_true hd))
      ⟨rfl, nofun, fun _ => rfl, nofun, nofun⟩ rfl rfl rfl rfl
  · exact .idle rfl rfl

theorem turns_breakOff (s : Scheduler) (k : Nat) : s.Turns (.breakOff k) (s.breakOff k) := by
  unfold breakOff
  split
  · rename_i hd
    obtain ⟨w, hw, hd⟩ := (Option.any_eq_true _ _).mp hd
    rw [modifyWorker_eq hw]
    exact .change hw (.breakOff (of_decide_eq_true hd))
      ⟨rfl, nofun, nofun, fun _ => rfl, nofun⟩ rfl rfl rfl rfl
  · exact .idle rfl rfl

theorem turns_leave (s : Scheduler) (k : Nat) : s.Turns (.leave k) (s.leave k) := by
  unfold leave
  cases hw : s.workers[k]? with
  | none => exact .idle rfl (modifyWorker_of_none hw _)
  | some w =>
    rw [modifyWorker_eq hw, Worker.leave]
    split
    · rename_i hd
      exact .change hw (.leave hd) ⟨rfl, nofun, nofun, nofun, nofun⟩ rfl rfl rfl rfl
    · rw [put_self hw]
      exact .idle rfl rfl

/-- Whether worker `k` was started and not told to stop. -/
def runs (s : Scheduler) (k : Nat) : Bool := (s.workers[k]?).any (·.running)

/-- The worker that was started and not stopped is the one that runs. -/
def IsSteered (s : Scheduler) : Prop := ∀ k, s.current = some k ↔ s.runs k = true

theorem runs_set (hw : s.workers[k]? = some w) (w' : Worker) (j : Nat) :
    ((s.workers.set k w')[j]?).any (·.running) = if k = j then w'.running else s.runs j := by
  have hk := (List.getElem?_eq_some_iff.mp hw).1
  by_cases hj : k = j
  · subst hj
    simp [hk]
  · simp [hj, runs]

/-- The worker that is told to stop is there, as it is the one that runs. -/
theorem turns_stop (h : s.IsSteered) : s.Turns .stop s.stop.2 := by
  unfold stop
  split
  · exact .idle rfl rfl
  · rename_i k hc
    obtain ⟨w, hw, -⟩ := (Option.any_eq_true _ _).mp ((h k).mp hc)
    rw [modifyWorker_eq hw]
    exact .change hw .halt ⟨rfl, nofun, nofun, nofun, fun _ => hc⟩ rfl rfl rfl rfl

theorem turns_step (h : s.IsSteered) (step : Step) : s.Turns step (s.step step) := by
  cases step with
  | start faulty => exact s.turns_start faulty
  | request => exact s.turns_request
  | requestFrom k => exact turns_requestFrom rfl rfl
  | take k => exact s.turns_take k
  | enter k => exact s.turns_enter k
  | complete k => exact s.turns_complete k
  | breakOff k => exact s.turns_breakOff k
  | leave k => exact s.turns_leave k
  | stop => exact turns_stop h

theorem IsSteered.turn (h : s.IsSteered) {step : Step} {s' : Scheduler} (ht : s.Turns step s') :
    s'.IsSteered := by
  intro j
  cases ht with
  | idle _ he => rw [he, h j]
  | start faulty _ hc he =>
    have hnone : s.runs j = false := by
      have := h j
      rw [hc] at this
      simpa using this
    subst he
    rw [runs] at hnone ⊢
    simp only [Option.some.injEq, getElem?_started, eq_comm (a := s.workers.length)]
    by_cases hj : j = s.workers.length
    · simp [hj, Worker.fresh]
    · simp [hj, hnone]
  | @change k w w' c hw hm hb hworkers hcurrent =>
    have hwas : s.runs k = w.running := by rw [runs, hw, Option.any_some]
    rw [runs, hworkers, runs_set hw, hcurrent, hm.running]
    by_cases hc : c = .halt
    · -- the worker that ran is told to stop, and no other was running
      have hk := h j
      rw [hb.halt hc] at hk
      by_cases hj : k = j
      · simp [hc, hj]
      · simpa [hc, hj] using hk
    · rw [if_neg hc, h j]
      by_cases hj : k = j
      · subst hj
        simp [hc, hwas]
      · simp [hj]

/-- A worker after a step was there before, was just started, or was changed by the step. -/
theorem Turns.worker {step : Step} {s' : Scheduler} (ht : s.Turns step s') {w' : Worker}
    (hw' : s'.workers[k]? = some w') :
    s.workers[k]? = some w' ∨ (∃ faulty, w' = .fresh faulty) ∨
      ∃ w c, s.workers[k]? = some w ∧ w.Moves c w' ∧ s.Brings step k c := by
  cases ht with
  | idle _ he => exact Or.inl (he ▸ hw')
  | start faulty _ _ he =>
    rw [he, getElem?_started] at hw'
    split at hw'
    · cases hw'
      exact Or.inr (Or.inl ⟨faulty, rfl⟩)
    · exact Or.inl hw'
  | @change j w v c hw hm hb hworkers =>
    rw [hworkers, List.getElem?_set] at hw'
    by_cases hj : j = k
    · subst hj
      rw [if_pos rfl] at hw'
      split at hw'
      · cases hw'
        exact Or.inr (Or.inr ⟨w, c, hw, hm, hb⟩)
      · cases hw'
    · rw [if_neg hj] at hw'
      exact Or.inl hw'

/-! ## Runs -/

/-- The scheduler after steps. -/
def run (s : Scheduler) (steps : List Step) : Scheduler := steps.foldl step s

theorem isSteered_idle (timing : Timing) : (idle timing).IsSteered := by
  intro k
  simp [idle, runs]

theorem IsSteered.step (h : s.IsSteered) (step : Step) : (s.step step).IsSteered :=
  h.turn (turns_step h step)

theorem isSteered_run (timing : Timing) (steps : List Step) : ((idle timing).run steps).IsSteered :=
  List.foldlRecOn steps _ (isSteered_idle timing) fun _ h step _ => h.step step

/-- What a worker has when it is started, and keeps with every change, it has throughout a run. A
frame of it breaks off in a step that says so. -/
theorem forall_worker_run (timing : Timing) {steps : List Step} {P : Worker → Prop}
    (hfresh : ∀ faulty, P (.fresh faulty))
    (hmoves : ∀ v w c, v.Moves c w → (c = .breakOff → .breakOff k ∈ steps) → P v → P w)
    (hw : ((idle timing).run steps).workers[k]? = some w) : P w := by
  have hrun : ((idle timing).run steps).IsSteered ∧
      ∀ w, ((idle timing).run steps).workers[k]? = some w → P w := by
    refine List.foldlRecOn (motive := fun s : Scheduler =>
      s.IsSteered ∧ ∀ w, s.workers[k]? = some w → P w) steps _ ⟨isSteered_idle timing, nofun⟩ ?_
    intro s h a ha
    refine ⟨h.1.step a, fun w' hw' => ?_⟩
    rcases (turns_step h.1 a).worker hw' with hold | ⟨faulty, rfl⟩ | ⟨v, c, hv, hm, hbrings⟩
    · exact h.2 w' hold
    · exact hfresh faulty
    · exact hmoves v w' c hm (fun hc => hbrings.breakOff hc ▸ ha) (h.2 v hv)
  exact hrun.2 w hw

end Scheduler

end Compositor
