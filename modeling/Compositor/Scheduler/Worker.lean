/-!
# Frame workers

A worker draws a frame for each request that it takes from its slot, which has room for one.
Requests that come while the slot is full are folded into the one that waits. A worker that was told
to stop draws nothing more, but its slot stays open until it has ended. The ledger of a worker
counts what became of its requests: `accepted = completed + coalesced + discarded`, and one more for
the request in the slot and for the one that the worker took.
-/

namespace Compositor

/-- How far a worker is. -/
inductive Activity where
  /-- It waits for a request. -/
  | waiting
  /-- It took a request and waits for its turn to draw. -/
  | holding
  /-- It is inside a frame. -/
  | drawing
  /-- It is done with its requests, and its slot is not closed yet. -/
  | leaving
  /-- It has ended, and its slot with it. -/
  | gone
deriving DecidableEq, Repr

/-- What became of the requests to a worker. -/
structure Ledger where
  /-- Requests that were answered with yes. -/
  accepted : Nat
  begun : Nat
  completed : Nat
  /-- Requests folded into one that waited. -/
  coalesced : Nat
  /-- Requests for which no frame was completed. -/
  discarded : Nat
deriving DecidableEq, Repr

structure Worker where
  /-- Whether its frames break off, which ends it. -/
  faulty : Bool
  /-- Whether it was not told to stop. -/
  running : Bool
  activity : Activity
  /-- Whether a request waits in its slot. -/
  pending : Bool
  ledger : Ledger
deriving DecidableEq, Repr

namespace Worker

/-- A worker as it is started. -/
def fresh (faulty : Bool) : Worker := ⟨faulty, true, .waiting, false, ⟨0, 0, 0, 0, 0⟩⟩

def note (w : Worker) (f : Ledger → Ledger) : Worker := { w with ledger := f w.ledger }

/-- Whether a request would be folded into one that waits. -/
def coalesces (w : Worker) : Bool := w.activity ≠ .gone && w.pending

/-- Asks for a frame, and says whether there is still somebody to draw it. -/
def request (w : Worker) : Bool × Worker :=
  if w.activity = .gone then (false, w)
  else if w.pending then
    (true, w.note fun l => { l with accepted := l.accepted + 1, coalesced := l.coalesced + 1 })
  else (true, { w with pending := true }.note fun l => { l with accepted := l.accepted + 1 })

/-- Takes the request out of the slot. -/
def take (w : Worker) : Worker :=
  if w.activity = .waiting ∧ w.pending then { w with activity := .holding, pending := false }
  else w

/-- Ends, with `lost` requests that were taken and not served; one in the slot is lost as well. -/
def quit (w : Worker) (lost : Nat) : Worker :=
  { w with activity := .gone, pending := false }.note fun l =>
    { l with discarded := l.discarded + lost + w.pending.toNat }

/-- Whether it is done with its requests: it is leaving, or it waits and was told to stop. -/
def isDone (w : Worker) : Bool := w.activity = .leaving || w.activity = .waiting && !w.running

/-- Ends if it is done. -/
def leave (w : Worker) : Worker := if w.isDone then w.quit 0 else w

/-- Begins the frame for the request in hand, unless it was told to stop meanwhile. -/
def enter (w : Worker) : Worker :=
  if w.running then
    { w with activity := .drawing }.note fun l => { l with begun := l.begun + 1 }
  else { w with activity := .leaving }.note fun l => { l with discarded := l.discarded + 1 }

/-- Completes its frame, and goes on unless it was told to stop. -/
def complete (w : Worker) : Worker :=
  { w with activity := if w.running then .waiting else .leaving }.note fun l =>
    { l with completed := l.completed + 1 }

end Worker

end Compositor
