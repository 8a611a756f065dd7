import Compositor.Proofs.Scheduler.Accounting

/-!
# One frame at a time

Whatever the order of starts, stops and requests, at most one worker of a scheduler is inside a
frame. A worker that was told to stop enters no frame any more, although it may have a request in
hand or stand at the gate, and what is asked of it from then on is without consequence for the
others.

The gate carries the first of these: it is held by the worker inside a frame and by no one else.
The second look at the worker when it has the gate carries the second. For the third two runs are
compared, one with the requests to the stopped worker and one without.
-/

namespace Compositor

namespace Worker

variable {w w' : Worker} {c : Change}

/-- A change leads into a frame exactly if the frame begins with it, and out of one exactly if the
frame ends with it. -/
theorem Moves.drawing (h : w.Moves c w') :
    decide (w'.activity = .drawing) =
      (decide (c = .enter) ||
        decide (w.activity = .drawing) && c ≠ .complete && c ≠ .breakOff) := by
  cases h with
  | accept | fold | halt =>
    show decide (w.activity = .drawing) = _
    simp
  | take hw hp => simp [Worker.take, hw, hp]
  | enter hh hr => simp [Worker.enter, hr, note]
  | drop hh hr => simp [Worker.enter, hr, note, hh]
  | complete hd => cases hr : w.running <;> simp [Worker.complete, hr, note]
  | breakOff hd => simp [quit, note]
  | leave hd =>
    have hnot : w.activity ≠ .drawing := by
      intro he
      simp [isDone, he] at hd
    simp [quit, note, hnot]

/-- The requests that were accepted are at least those for which a frame began, with the one in the
slot and the one in hand. -/
def IsEarned (w : Worker) : Prop :=
  w.ledger.begun + w.pending.toNat + (decide (w.activity = .holding)).toNat ≤ w.ledger.accepted

theorem isEarned_fresh (faulty : Bool) : (fresh faulty).IsEarned := Nat.le_refl 0

theorem Moves.isEarned (h : w.Moves c w') (he : w.IsEarned) : w'.IsEarned := by
  unfold IsEarned at he ⊢
  cases h with
  | accept _ hp =>
    rw [hp, Bool.toNat_false] at he
    show w.ledger.begun + 1 + (decide (w.activity = .holding)).toNat ≤ w.ledger.accepted + 1
    omega
  | fold _ hp =>
    show w.ledger.begun + w.pending.toNat + (decide (w.activity = .holding)).toNat ≤
      w.ledger.accepted + 1
    omega
  | take hw hp =>
    simp only [hw, hp, Bool.toNat_true] at he
    simp [Worker.take, hw, hp]
    omega
  | enter hh hr =>
    simp only [hh, decide_true, Bool.toNat_true] at he
    simp [Worker.enter, hr, note]
    omega
  | drop hh hr =>
    simp only [hh, decide_true, Bool.toNat_true] at he
    simp [Worker.enter, hr, note]
    omega
  | complete hd =>
    cases hr : w.running <;> simp [Worker.complete, hr, note] <;> omega
  | breakOff hd =>
    simp [quit, note]
    omega
  | leave hd =>
    simp [quit, note]
    omega
  | halt => exact he

/-- What is put down in the ledger as a frame begins. -/
theorem Moves.begun (h : w.Moves c w') :
    w'.ledger.begun = w.ledger.begun + (decide (c = .enter)).toNat := by
  cases h with
  | take hw hp => simp [Worker.take, hw, hp]
  | enter hh hr => simp [Worker.enter, hr, note]
  | drop hh hr => simp [Worker.enter, hr, note]
  | _ => simp [note, Worker.complete, quit]

end Worker

namespace Scheduler

variable {s s' t u : Scheduler} {j k : Nat}

/-! ## Workers, one by one -/

/-- A worker is the same after a step, was just started, or was changed. -/
theorem Turns.at {step : Step} (ht : s.Turns step s') (k : Nat) :
    s'.workers[k]? = s.workers[k]? ∨
      (s.workers[k]? = none ∧ ∃ faulty, s'.workers[k]? = some (.fresh faulty)) ∨
      ∃ w w' c, s.workers[k]? = some w ∧ s'.workers[k]? = some w' ∧ w.Moves c w' := by
  cases ht with
  | idle _ he => exact Or.inl (by rw [he])
  | start faulty _ _ he =>
    subst he
    rw [getElem?_started]
    split
    · rename_i hk
      exact Or.inr (Or.inl ⟨List.getElem?_eq_none (Nat.le_of_eq hk.symm), faulty, rfl⟩)
    · exact Or.inl rfl
  | @change j w w' c hw hm hb hworkers =>
    rw [hworkers, List.getElem?_set]
    by_cases hj : j = k
    · subst hj
      rw [if_pos rfl, if_pos (List.getElem?_eq_some_iff.mp hw).1]
      exact Or.inr (Or.inr ⟨w, w', c, hw, rfl, hm⟩)
    · exact Or.inl (if_neg hj)

/-- Whether worker `k` is inside a frame. -/
def isDrawing (s : Scheduler) (k : Nat) : Bool := (s.workers[k]?).any (·.activity = .drawing)

/-- Worker `k` enters a frame. -/
def enters (k : Nat) (e : Scheduler × Step) : Bool :=
  !e.1.isDrawing k && (e.1.step e.2).isDrawing k

/-- Worker `k` was told to stop. -/
def IsStopped (s : Scheduler) (k : Nat) : Prop :=
  ∃ w, s.workers[k]? = some w ∧ w.running = false

/-! ## After a stop -/

/-- A worker that was told to stop stays so. -/
theorem IsStopped.turn (h : s.IsStopped k) {step : Step} (ht : s.Turns step s') :
    s'.IsStopped k := by
  obtain ⟨w, hw, hr⟩ := h
  rcases ht.at k with hsame | ⟨hnone, -⟩ | ⟨v, v', c, hv, hv', hm⟩
  · exact ⟨w, hsame.trans hw, hr⟩
  · rw [hw] at hnone
    cases hnone
  · rw [hw] at hv
    cases hv
    exact ⟨v', hv', by rw [hm.running, hr, Bool.false_and]⟩

theorem IsStopped.lt_length (h : s.IsStopped k) : k < s.workers.length := by
  obtain ⟨w, hw, -⟩ := h
  exact (List.getElem?_eq_some_iff.mp hw).1

theorem IsStopped.modifyWorker (h : s.IsStopped k) {f : Worker → Worker}
    (hf : ∀ w : Worker, w.running = false → (f w).running = false) (j : Nat) :
    (s.modifyWorker j f).IsStopped k := by
  obtain ⟨w, hw, hr⟩ := h
  by_cases hj : j = k
  · subst hj
    exact ⟨f w, by simp [Scheduler.modifyWorker, hw], hf w hr⟩
  · exact ⟨w, by simpa [Scheduler.modifyWorker, List.getElem?_modify, hj] using hw, hr⟩

/-- A worker that was told to stop does not enter a frame. -/
theorem IsStopped.not_enters (h : s.IsStopped k) (hs : s.IsSteered) (step : Step) :
    enters k (s, step) = false := by
  obtain ⟨w, hw, hr⟩ := h
  unfold enters isDrawing
  rcases (turns_step hs step).at k with hsame | ⟨hnone, -⟩ | ⟨v, v', c, hv, hv', hm⟩
  · simp [hsame]
  · rw [hw] at hnone
    cases hnone
  · rw [hw] at hv
    cases hv
    have hc : c ≠ .enter := by
      rintro rfl
      cases hm with
      | enter _ hrun => exact absurd (hrun.symm.trans hr) (by decide)
    simp only [hw, hv', Option.any_some, hm.drawing, hc]
    cases decide (w.activity = .drawing) <;> simp

theorem isStopped_stop (h : s.IsSteered) (hc : s.current = some k) :
    (s.step .stop).IsStopped k := by
  obtain ⟨w, hw, -⟩ := (Option.any_eq_true _ _).mp ((h k).mp hc)
  refine ⟨{ w with running := false }, ?_, rfl⟩
  simp only [step, stop, hc, modifyWorker_eq hw]
  exact List.getElem?_set_self (List.getElem?_eq_some_iff.mp hw).1

/-- After a stop no frame of the worker begins. -/
theorem not_enters_of_stop (h : s.IsSteered) (hc : s.current = some k) (later : List Step) :
    ∀ e ∈ trail step (s.step .stop) later, enters k e = false := by
  have hkeep (s : Scheduler) (step : Step) (hs : s.IsSteered ∧ s.IsStopped k) :
      (s.step step).IsSteered ∧ (s.step step).IsStopped k :=
    ⟨hs.1.step step, hs.2.turn (turns_step hs.1 step)⟩
  intro e he
  obtain ⟨hs, hstopped⟩ :=
    forall_mem_trail hkeep ⟨h.step .stop, isStopped_stop h hc⟩ later e he
  exact hstopped.not_enters hs e.2

/-! ## The gate -/

/-- The gate is held by the worker inside a frame, and by no one else. -/
def IsGuarded (s : Scheduler) : Prop := ∀ k, s.gate = some k ↔ s.isDrawing k = true

theorem isDrawing_modifyWorker (s : Scheduler) (k : Nat) (f : Worker → Worker) (j : Nat) :
    (s.modifyWorker k f).isDrawing j =
      if k = j then (s.workers[k]?).any (fun w => (f w).activity = .drawing)
      else s.isDrawing j := by
  simp only [isDrawing, modifyWorker, List.getElem?_modify]
  by_cases hj : k = j
  · subst hj
    cases s.workers[k]? <;> simp
  · simp [hj]

theorem not_isDrawing_modifyWorker {f : Worker → Worker}
    (hf : ∀ w : Worker, (f w).activity ≠ .drawing) (s : Scheduler) (k : Nat) :
    (s.modifyWorker k f).isDrawing k = false := by
  rw [isDrawing_modifyWorker, if_pos rfl]
  simp [hf]

theorem activity_complete (w : Worker) : w.complete.activity ≠ .drawing := by
  cases hr : w.running <;> simp [Worker.complete, Worker.note, hr]

theorem running_enter (w : Worker) : w.enter.running = w.running := by
  unfold Worker.enter
  split <;> rfl

theorem activity_quit (w : Worker) : (w.quit 1).activity ≠ .drawing := by
  simp [Worker.quit, Worker.note]

/-- The change leads neither into a frame nor out of one, and is no stop. -/
structure IsAside (f : Worker → Worker) : Prop where
  drawing : ∀ w : Worker, (f w).activity = .drawing ↔ w.activity = .drawing
  running : ∀ w : Worker, (f w).running = w.running

theorem isAside_request : IsAside fun w => w.request.2 := by
  refine ⟨fun w => ?_, fun w => ?_⟩ <;>
  · dsimp only [Worker.request]
    split
    · rfl
    · split <;> rfl

theorem isAside_take : IsAside Worker.take := by
  constructor <;>
  · intro w
    unfold Worker.take
    split
    · rename_i h
      simp [h.1]
    · rfl

theorem isAside_leave : IsAside Worker.leave := by
  constructor <;>
  · intro w
    unfold Worker.leave
    split
    · rename_i h
      simp only [Worker.isDone, Bool.or_eq_true, Bool.and_eq_true, decide_eq_true_eq] at h
      rcases h with h | ⟨h, -⟩ <;> simp [Worker.quit, Worker.note, h]
    · rfl

theorem isDrawing_of_same {f : Worker → Worker}
    (hf : ∀ w : Worker, (f w).activity = .drawing ↔ w.activity = .drawing) (k j : Nat) :
    (s.modifyWorker k f).isDrawing j = s.isDrawing j := by
  rw [isDrawing_modifyWorker]
  split
  · rename_i hj
    subst hj
    have hsame : (fun w => decide ((f w).activity = .drawing)) =
        fun w : Worker => decide (w.activity = .drawing) :=
      funext fun w => decide_eq_decide.mpr (hf w)
    rw [hsame, isDrawing]
  · rfl

namespace IsGuarded

/-- Neither the gate nor who is inside a frame changes. -/
theorem keep (h : s.IsGuarded) (hg : s'.gate = s.gate)
    (hd : ∀ k, s'.isDrawing k = s.isDrawing k) : s'.IsGuarded := by
  intro k
  rw [hg, hd k]
  exact h k

theorem aside (h : s.IsGuarded) {f : Worker → Worker} (hf : IsAside f) (k : Nat) :
    (s.modifyWorker k f).IsGuarded :=
  h.keep rfl fun j => isDrawing_of_same hf.drawing k j

/-- The worker inside a frame comes out of it and frees the gate. -/
theorem free (h : s.IsGuarded) (hd : s.isDrawing k = true) {f : Worker → Worker}
    (hf : ∀ w, (f w).activity ≠ .drawing) (frames : Nat) :
    IsGuarded { s.modifyWorker k f with gate := none, frames := frames } := by
  intro j
  show none = some j ↔ (s.modifyWorker k f).isDrawing j = true
  rw [isDrawing_modifyWorker]
  split
  · simp [hf]
  · rename_i hj
    rw [← h j, (h k).mpr hd]
    simp [hj]

/-- A worker passes the free gate: it enters a frame if it was not told to stop. -/
theorem enter (h : s.IsGuarded) (k : Nat) : (s.enter k).IsGuarded := by
  unfold Scheduler.enter
  split
  · rename_i w hw hfree
    split
    · intro j
      show (if w.running then some k else none) = some j ↔
        (s.modifyWorker k Worker.enter).isDrawing j = true
      have hout : s.isDrawing j = false := by
        rw [← Bool.not_eq_true, ← h j, hfree]
        exact nofun
      rw [isDrawing_modifyWorker, hw, hout]
      cases hr : w.running <;> simp [Worker.enter, Worker.note, hr]
    · exact h
  · exact h

theorem request (h : s.IsGuarded) (k : Nat) : (s.requestFrom k).2.IsGuarded := by
  unfold requestFrom
  split
  · exact h
  · have hput : (s.modifyWorker k fun w => w.request.2).IsGuarded := h.aside isAside_request k
    dsimp only
    split
    · exact hput.keep rfl fun _ => rfl
    · exact hput

/-- A worker that is started is outside. -/
theorem start (h : s.IsGuarded) (faulty : Bool) : (s.start faulty).2.IsGuarded := by
  unfold Scheduler.start
  split
  · exact h
  · refine h.keep rfl fun k => ?_
    simp only [isDrawing, getElem?_started]
    split
    · rename_i hk
      rw [List.getElem?_eq_none (Nat.le_of_eq hk.symm)]
      rfl
    · rfl

theorem step (h : s.IsGuarded) (step : Step) : (s.step step).IsGuarded := by
  cases step with
  | start faulty => exact h.start faulty
  | request =>
    show s.request.2.IsGuarded
    unfold Scheduler.request
    split
    · exact h
    · split
      · exact h.request _
      · exact h
  | requestFrom k => exact h.request k
  | take k => exact h.aside isAside_take k
  | enter k => exact h.enter k
  | complete k =>
    show (s.complete k).IsGuarded
    unfold Scheduler.complete
    split
    · rename_i hd
      exact h.free hd activity_complete _
    · exact h
  | breakOff k =>
    show (s.breakOff k).IsGuarded
    unfold Scheduler.breakOff
    split
    · rename_i hd
      exact h.free hd activity_quit _
    · exact h
  | leave k => exact h.aside isAside_leave k
  | stop =>
    show s.stop.2.IsGuarded
    unfold Scheduler.stop
    split
    · exact h
    · rename_i k _
      exact h.keep rfl
        (isDrawing_of_same (f := fun w => { w with running := false }) (fun _ => Iff.rfl) k)

end IsGuarded

theorem isGuarded_run (timing : Timing) (steps : List Step) : ((idle timing).run steps).IsGuarded :=
  List.foldlRecOn steps _ (fun k => by simp [idle, isDrawing]) fun _ h step _ => h.step step

/-! ## Requests to a stopped worker -/

/-- Both schedulers are in the same situation, up to what is asked of worker `k`, which was told to
stop in both. -/
structure Alike (k : Nat) (s t : Scheduler) : Prop where
  others : ∀ j, j ≠ k → s.workers[j]? = t.workers[j]?
  length : s.workers.length = t.workers.length
  gate : s.gate = t.gate
  current : s.current = t.current
  current_ne : s.current ≠ some k
  frames : s.frames = t.frames
  drawing : s.isDrawing k = t.isDrawing k
  stopped : s.IsStopped k ∧ t.IsStopped k

namespace Alike

theorem symm (h : Alike k s t) : Alike k t s where
  others j hj := (h.others j hj).symm
  length := h.length.symm
  gate := h.gate.symm
  current := h.current.symm
  current_ne := h.current ▸ h.current_ne
  frames := h.frames.symm
  drawing := h.drawing.symm
  stopped := h.stopped.symm

theorem trans (h : Alike k s t) (h' : Alike k t u) : Alike k s u where
  others j hj := (h.others j hj).trans (h'.others j hj)
  length := h.length.trans h'.length
  gate := h.gate.trans h'.gate
  current := h.current.trans h'.current
  current_ne := h.current_ne
  frames := h.frames.trans h'.frames
  drawing := h.drawing.trans h'.drawing
  stopped := ⟨h.stopped.1, h'.stopped.2⟩

theorem refl (hs : s.IsStopped k) (hc : s.current ≠ some k) : Alike k s s :=
  ⟨fun _ _ => rfl, rfl, rfl, rfl, hc, rfl, rfl, hs, hs⟩

/-- Worker `k` is changed in one of them, and stays inside or outside a frame. -/
theorem aside (hs : s.IsStopped k) (hc : s.current ≠ some k) {f : Worker → Worker}
    (hd : (s.modifyWorker k f).isDrawing k = s.isDrawing k)
    (hr : ∀ w : Worker, (f w).running = w.running) : Alike k s (s.modifyWorker k f) where
  others _ hj := (List.getElem?_modify_ne _ _ hj.symm).symm
  length := (List.length_modify ..).symm
  gate := rfl
  current := rfl
  current_ne := hc
  frames := rfl
  drawing := hd.symm
  stopped := ⟨hs, hs.modifyWorker (fun w h => (hr w).trans h) k⟩

/-- A worker is changed in both; if it is worker `k`, it is inside a frame afterwards in both or in
none. -/
theorem both (h : Alike k s t) {f : Worker → Worker}
    (hd : j = k → (s.modifyWorker j f).isDrawing k = (t.modifyWorker j f).isDrawing k)
    (hr : ∀ w : Worker, w.running = false → (f w).running = false) :
    Alike k (s.modifyWorker j f) (t.modifyWorker j f) where
  others i hi := by simp only [modifyWorker, List.getElem?_modify, h.others i hi]
  length := by simp only [modifyWorker, List.length_modify, h.length]
  gate := h.gate
  current := h.current
  current_ne := h.current_ne
  frames := h.frames
  drawing := by
    by_cases hj : j = k
    · exact hd hj
    · rw [isDrawing_modifyWorker, isDrawing_modifyWorker, if_neg hj, if_neg hj, h.drawing]
  stopped := ⟨h.stopped.1.modifyWorker hr j, h.stopped.2.modifyWorker hr j⟩

/-- What only worker `k` is concerned with in one of them. -/
theorem requestFrom (hs : s.IsStopped k) (hc : s.current ≠ some k) :
    Alike k s (s.requestFrom k).2 := by
  unfold Scheduler.requestFrom
  split
  · exact .refl hs hc
  · have haside : Alike k s (s.modifyWorker k fun w => w.request.2) :=
      .aside hs hc (isDrawing_of_same isAside_request.drawing k k) isAside_request.running
    dsimp only
    split
    · exact { haside with }
    · exact haside

/-- A stopped worker that stands at the gate drops its request. -/
theorem enter (hs : s.IsStopped k) (hc : s.current ≠ some k) : Alike k s (s.enter k) := by
  unfold Scheduler.enter
  split
  · rename_i w hw hfree
    split
    · rename_i hh
      obtain ⟨v, hv, hr⟩ := hs
      rw [hw] at hv
      cases hv
      have hdrawing : (s.modifyWorker k Worker.enter).isDrawing k = s.isDrawing k := by
        rw [isDrawing_modifyWorker, if_pos rfl, isDrawing, hw]
        simp [Worker.enter, Worker.note, hr, hh]
      have haside : Alike k s (s.modifyWorker k Worker.enter) :=
        .aside ⟨w, hw, hr⟩ hc hdrawing running_enter
      exact { haside with gate := by simp [hr, hfree] }
    · exact .refl hs hc
  · exact .refl hs hc

/-- The same is asked of the same worker in both. -/
theorem requestBoth (h : Alike k s t) (hj : j ≠ k) :
    Alike k (s.requestFrom j).2 (t.requestFrom j).2 := by
  unfold Scheduler.requestFrom
  rw [← h.others j hj]
  split
  · exact h
  · have hboth : Alike k (s.modifyWorker j fun w => w.request.2)
        (t.modifyWorker j fun w => w.request.2) :=
      h.both (fun he => absurd he hj) fun w hw => (isAside_request.running w).trans hw
    dsimp only
    split
    · exact { hboth with }
    · exact hboth

theorem request (h : Alike k s t) : Alike k s.request.2 t.request.2 := by
  unfold Scheduler.request
  rw [← h.current]
  split
  · exact h
  · rename_i j hc
    have hj : j ≠ k := by
      rintro rfl
      exact h.current_ne hc
    have hrunning : t.isRunning = s.isRunning := by
      simp only [isRunning, ← h.current, hc, Option.bind_some, h.others j hj]
    rw [hrunning]
    split
    · exact h.requestBoth hj
    · exact h

theorem start (h : Alike k s t) (faulty : Bool) :
    Alike k (s.start faulty).2 (t.start faulty).2 := by
  -- the new worker has another number
  have hk := h.stopped.1.lt_length
  have hsk := getElem?_started s faulty k
  have htk := getElem?_started t faulty k
  rw [if_neg (Nat.ne_of_lt hk)] at hsk
  rw [if_neg (Nat.ne_of_lt (h.length ▸ hk))] at htk
  unfold Scheduler.start
  rw [← h.current]
  split
  · exact h
  · exact {
      others := fun j hj => by simp only [getElem?_started, h.length, h.others j hj]
      length := by simp only [List.length_append, h.length]
      gate := h.gate
      current := by simp only [h.length]
      current_ne := fun he => Nat.ne_of_gt hk (Option.some.inj he)
      frames := h.frames
      drawing := by
        have hdrawing := h.drawing
        rw [isDrawing] at hdrawing ⊢
        rwa [hsk, isDrawing, htk]
      stopped := by
        rw [IsStopped, hsk, IsStopped, htk]
        exact h.stopped }

theorem stop (h : Alike k s t) : Alike k s.stop.2 t.stop.2 := by
  unfold Scheduler.stop
  rw [← h.current]
  split
  · exact h
  · rename_i j hc
    have hboth : Alike k (s.modifyWorker j fun w => { w with running := false })
        (t.modifyWorker j fun w => { w with running := false }) :=
      h.both (fun he => absurd (he ▸ hc) h.current_ne) fun _ _ => rfl
    exact { hboth with
      current := rfl
      current_ne := nofun }

/-- A worker comes out of its frame in both, if it is inside. -/
theorem free (h : Alike k s t) {f : Worker → Worker} (hd : ∀ w, (f w).activity ≠ .drawing)
    (hr : ∀ w : Worker, w.running = false → (f w).running = false) (n : Nat) :
    Alike k (if s.isDrawing j then { s.modifyWorker j f with gate := none, frames := s.frames + n }
        else s)
      (if t.isDrawing j then { t.modifyWorker j f with gate := none, frames := t.frames + n }
        else t) := by
  have hsame : t.isDrawing j = s.isDrawing j := by
    by_cases hj : j = k
    · rw [hj, h.drawing]
    · rw [isDrawing, isDrawing, h.others j hj]
  have hboth : Alike k (s.modifyWorker j f) (t.modifyWorker j f) := by
    refine h.both (fun hj => ?_) hr
    subst hj
    rw [not_isDrawing_modifyWorker hd, not_isDrawing_modifyWorker hd]
  rw [hsame]
  split
  · exact { hboth with
      gate := rfl
      frames := congrArg (· + n) h.frames }
  · exact h

/-- Both take a step. -/
theorem step (h : Alike k s t) (step : Step) : Alike k (s.step step) (t.step step) := by
  have hs := h.stopped.1
  have ht := h.stopped.2
  have hc := h.current_ne
  have hc' := h.symm.current_ne
  -- what worker `k` alone does goes unnoticed, so it may be done in one and then in the other
  have alone {f : Worker → Worker} (hf : IsAside f) (j : Nat) :
      Alike k (s.modifyWorker j f) (t.modifyWorker j f) := by
    refine h.both (fun hj => ?_) fun w hw => (hf.running w).trans hw
    rw [isDrawing_of_same hf.drawing, isDrawing_of_same hf.drawing, h.drawing]
  cases step with
  | start faulty => exact h.start faulty
  | request => exact h.request
  | requestFrom j =>
    by_cases hj : j = k
    · subst hj
      exact ((Alike.requestFrom hs hc).symm.trans h).trans (.requestFrom ht hc')
    · exact h.requestBoth hj
  | take j => exact alone isAside_take j
  | enter j =>
    by_cases hj : j = k
    · subst hj
      exact ((Alike.enter hs hc).symm.trans h).trans (.enter ht hc')
    · show Alike k (s.enter j) (t.enter j)
      unfold Scheduler.enter
      rw [← h.others j hj, ← h.gate]
      split
      · split
        · have hboth : Alike k (s.modifyWorker j Worker.enter) (t.modifyWorker j Worker.enter) :=
            h.both (fun he => absurd he hj) fun w hw => (running_enter w).trans hw
          exact { hboth with gate := rfl }
        · exact h
      · exact h
  | complete j => exact h.free activity_complete (fun w hw => hw) 1
  | breakOff j => exact h.free activity_quit (fun w hw => hw) 0
  | leave j => exact alone isAside_leave j
  | stop => exact h.stop

/-- The requests to worker `k` are left out of one of two runs. -/
theorem run (h : Alike k s t) (steps : List Step) :
    Alike k (s.run steps) (t.run (steps.filter (· ≠ .requestFrom k))) := by
  induction steps generalizing s t with
  | nil => exact h
  | cons a steps ih =>
    by_cases ha : a = .requestFrom k
    · rw [List.filter_cons_of_neg (by simpa using ha)]
      refine ih (Alike.trans ?_ h)
      rw [ha]
      exact (Alike.requestFrom h.stopped.1 h.current_ne).symm
    · rw [List.filter_cons_of_pos (by simpa using ha)]
      exact ih (h.step a)

end Alike

/-! ## Frames and requests -/

/-- A worker that begins a frame puts it down in its ledger. -/
theorem entry_begun (h : s.IsSteered) (step : Step) (k : Nat) :
    entry (·.begun) k (s.step step) = entry (·.begun) k s + (enters k (s, step)).toNat := by
  unfold entry enters isDrawing
  rcases (turns_step h step).at k with hsame | ⟨hnone, faulty, hnew⟩ | ⟨w, w', c, hw, hw', hm⟩
  · simp [hsame]
  · simp [hnone, hnew, Worker.fresh]
  · simp only [hw, hw', Option.elim_some, Option.any_some, hm.begun, hm.drawing]
    by_cases hc : c = .enter
    · subst hc
      cases hm with
      | enter hh _ => simp [hh]
    · cases decide (w.activity = .drawing) <;> simp [hc]

/-- All workers have earned their frames. -/
theorem isEarned_run (timing : Timing) (steps : List Step) {w : Worker}
    (hw : ((idle timing).run steps).workers[k]? = some w) : w.IsEarned := by
  refine forall_worker_run timing Worker.isEarned_fresh ?_ hw
  exact fun _ _ _ hm _ => hm.isEarned

/-- A worker enters no more frames than were asked of it. -/
theorem enters_le_grants (timing : Timing) (steps : List Step) (k : Nat) :
    times timing steps (enters k) ≤ times timing steps (grants k) := by
  have hkeep (s : Scheduler) (step : Step) (h : s.IsSteered) : (s.step step).IsSteered :=
    h.step step
  have hbegun := count_trail hkeep (fun s step h => entry_begun h step k) (isSteered_idle timing)
    steps
  have haccepted := count_trail hkeep (fun s step h => entry_accepted h step k)
    (isSteered_idle timing) steps
  have hle : entry (·.begun) k ((idle timing).run steps) ≤
      entry (·.accepted) k ((idle timing).run steps) := by
    unfold entry
    cases hw : ((idle timing).run steps).workers[k]? with
    | none => exact Nat.le_refl 0
    | some w =>
      have hearned : w.ledger.begun + w.pending.toNat + (decide (w.activity = .holding)).toNat ≤
          w.ledger.accepted := isEarned_run timing steps hw
      show w.ledger.begun ≤ w.ledger.accepted
      omega
  have hstart (f : Ledger → Nat) : entry f k (idle timing) = 0 := rfl
  rw [hstart, Nat.zero_add] at hbegun haccepted
  rw [run, hbegun, haccepted] at hle
  exact hle

/-- In every run at most one worker is inside a frame at a time, and a worker that is told to stop
enters none any more. What is asked of a worker after its stop leaves all other workers, and the
number of frames, as they would be without; and a worker never enters more frames than were asked
of that very worker. -/
theorem exclusive_of_run (timing : Timing) (steps : List Step) :
    let s := (idle timing).run steps
    (∀ j k, s.isDrawing j = true → s.isDrawing k = true → j = k) ∧
    (∀ k, s.current = some k →
      ∀ later, ∀ e ∈ trail step (s.step .stop) later, enters k e = false) ∧
    (∀ k, s.IsStopped k → ∀ later,
      let unasked := s.run (later.filter (· ≠ .requestFrom k))
      (s.run later).frames = unasked.frames ∧
        ∀ j, j ≠ k → (s.run later).workers[j]? = unasked.workers[j]?) ∧
    ∀ k, times timing steps (enters k) ≤ times timing steps (grants k) := by
  intro s
  have hsteered : s.IsSteered := isSteered_run timing steps
  have hguarded : s.IsGuarded := isGuarded_run timing steps
  refine ⟨fun j k hj hk => ?_, fun k hc later => not_enters_of_stop hsteered hc later,
    fun k hstopped later => ?_, enters_le_grants timing steps⟩
  · have hgate := (hguarded j).mpr hj
    rw [(hguarded k).mpr hk] at hgate
    cases hgate
    rfl
  · have hc : s.current ≠ some k := by
      obtain ⟨w, hw, hr⟩ := hstopped
      rw [ne_eq, hsteered k, runs, hw, Option.any_some, hr]
      intro hrunning
      cases hrunning
    have halike := (Alike.refl hstopped hc).run later
    exact ⟨halike.frames, halike.others⟩

/-- A worker that was stopped inside a frame keeps the next one out, which waits at the gate with a
request in hand and draws nothing once it is stopped as well. -/
theorem exclusive_of_restart :
    let s := (idle ⟨1000, 20000⟩).run
      [.start false, .request, .take 0, .enter 0, .stop, .start false, .request, .take 1, .enter 1]
    (s.isDrawing 0 = true ∧ ∀ k, s.isDrawing k = true → k = 0) ∧
      (s.current = some 1 ∧
        ∀ later, ∀ e ∈ trail step (s.step .stop) later, enters 1 e = false) ∧
      s.IsStopped 0 ∧ (s.run [.requestFrom 0, .complete 0, .enter 1]).frames =
        (s.run [.complete 0, .enter 1]).frames := by
  intro s
  obtain ⟨hdrawing, hcurrent⟩ : s.isDrawing 0 = true ∧ s.current = some 1 := by decide
  have hstopped : s.IsStopped 0 := ⟨_, rfl, rfl⟩
  obtain ⟨hone, hstop, hrequests, -⟩ := exclusive_of_run ⟨1000, 20000⟩
    [.start false, .request, .take 0, .enter 0, .stop, .start false, .request, .take 1, .enter 1]
  exact ⟨⟨hdrawing, fun k hk => hone k 0 hk hdrawing⟩, ⟨hcurrent, hstop 1 hcurrent⟩, hstopped,
    (hrequests 0 hstopped [.requestFrom 0, .complete 0, .enter 1]).1⟩

end Scheduler

end Compositor
