import Compositor.Settings
import Compositor.Scheduler.Worker

/-!
# Frame schedulers

A scheduler has at most one worker at a time. A worker that is stopped in the middle of a frame may
outlive the stop, so workers of earlier starts can still be at work; a gate lets one of all workers
draw at a time. Workers are numbered by their starts.

The steps of workers are taken one by one, in any order that the situation allows. `settle` takes
those that need no one from outside, that is all but completing a frame.
-/

namespace Compositor

structure Scheduler where
  timing : Timing
  /-- The workers of all starts; the position is the number. -/
  workers : List Worker
  /-- The worker that was started and not stopped. -/
  current : Option Nat
  /-- The worker inside a frame. -/
  gate : Option Nat
  frames : Nat
  /-- Requests folded into others, of all workers. -/
  coalesced : Nat
deriving DecidableEq, Repr

namespace Scheduler

/-- A scheduler that was not started. -/
def idle (timing : Timing) : Scheduler := ⟨timing, [], none, none, 0, 0⟩

def modifyWorker (s : Scheduler) (k : Nat) (f : Worker → Worker) : Scheduler :=
  { s with workers := s.workers.modify k f }

/-- Whether there is a worker that was not told to stop. -/
def isRunning (s : Scheduler) : Bool := (s.current.bind (s.workers[·]?)).any (·.running)

/-- Starts a worker: its number, unless there is one already. -/
def start (s : Scheduler) (faulty : Bool) : Except Failure Nat × Scheduler :=
  if s.current.isSome then (.error (.scheduler "scheduler already started"), s)
  else
    let k := s.workers.length
    (.ok k, { s with workers := s.workers ++ [.fresh faulty], current := some k })

/-- Asks a worker for a frame, and says whether it can still draw one. -/
def requestFrom (s : Scheduler) (k : Nat) : Bool × Scheduler :=
  match s.workers[k]? with
  | none => (false, s)
  | some w =>
    let (accepted, _) := w.request
    let s := s.modifyWorker k fun w => w.request.2
    (accepted, if w.coalesces then { s with coalesced := s.coalesced + 1 } else s)

/-- Asks the worker that was started for a frame. -/
def request (s : Scheduler) : Bool × Scheduler :=
  match s.current with
  | none => (false, s)
  | some k => if s.isRunning then s.requestFrom k else (false, s)

/-- Tells the worker to stop and lets go of it, and says whether one was running. -/
def stop (s : Scheduler) : Bool × Scheduler :=
  match s.current with
  | none => (false, s)
  | some k =>
    (s.isRunning, { s.modifyWorker k fun w => { w with running := false } with current := none })

/-! ## The steps of workers -/

/-- A worker takes the request out of its slot. -/
def take (s : Scheduler) (k : Nat) : Scheduler := s.modifyWorker k Worker.take

/-- A worker with a request in hand takes its turn if the gate is free: it begins a frame, or drops
the request if it was told to stop. -/
def enter (s : Scheduler) (k : Nat) : Scheduler :=
  match s.workers[k]?, s.gate with
  | some w, none =>
    if w.activity = .holding then
      { s.modifyWorker k Worker.enter with gate := if w.running then some k else none }
    else s
  | _, _ => s

/-- A worker completes its frame. -/
def complete (s : Scheduler) (k : Nat) : Scheduler :=
  if (s.workers[k]?).any (·.activity = .drawing) then
    { s.modifyWorker k Worker.complete with gate := none, frames := s.frames + 1 }
  else s

/-- The frame of a worker breaks off, and the worker ends. -/
def breakOff (s : Scheduler) (k : Nat) : Scheduler :=
  if (s.workers[k]?).any (·.activity = .drawing) then
    { s.modifyWorker k fun w => w.quit 1 with gate := none }
  else s

/-- A worker that is done ends. -/
def leave (s : Scheduler) (k : Nat) : Scheduler := s.modifyWorker k Worker.leave

/-- A worker goes as far as it can without completing a frame. -/
def advance (s : Scheduler) (k : Nat) : Scheduler :=
  let s := ((s.take k).enter k).leave k
  if (s.workers[k]?).any (·.faulty) then s.breakOff k else s

/-- All workers go as far as they can without completing a frame. -/
def settle (s : Scheduler) : Scheduler := (List.range s.workers.length).foldl advance s

/-- What can happen to a scheduler. -/
inductive Step where
  | start (faulty : Bool)
  | request
  | requestFrom (k : Nat)
  | take (k : Nat)
  | enter (k : Nat)
  | complete (k : Nat)
  | breakOff (k : Nat)
  | leave (k : Nat)
  | stop
deriving DecidableEq, Repr

/-- The scheduler after a step; a step that cannot be taken changes nothing. -/
def step (s : Scheduler) : Step → Scheduler
  | .start faulty => (s.start faulty).2
  | .request => s.request.2
  | .requestFrom k => (s.requestFrom k).2
  | .take k => s.take k
  | .enter k => s.enter k
  | .complete k => s.complete k
  | .breakOff k => s.breakOff k
  | .leave k => s.leave k
  | .stop => s.stop.2

end Scheduler

end Compositor
