import Compositor.Driver.Call
import Compositor.Failure

/-!
# Devices

A device is a driver that can be made to fail, with a journal of what it was told. Its fault plan
says which creations are refused and which compilations are spoiled, counted from the first one;
the journal holds every call with its outcome, the latest first.
-/

namespace Compositor

open Numeric

/-- Which attempts go wrong. -/
structure FaultPlan where
  /-- Whether the creation with this number is refused. -/
  refuses : Nat → Bool
  /-- Whether the compilation with this number is spoiled. -/
  spoils : Nat → Bool

namespace FaultPlan

def none : FaultPlan := ⟨fun _ => false, fun _ => false⟩

/-- Refuses the `k`-th creation after `attempts` of them, and no other; none if `k` is zero. -/
def refuseAfter (p : FaultPlan) (attempts k : Nat) : FaultPlan :=
  { p with refuses := fun n => 0 < k && n == attempts + k - 1 }

/-- Spoils the `k`-th compilation after `attempts` of them, and no other; none if `k` is zero. -/
def spoilAfter (p : FaultPlan) (attempts k : Nat) : FaultPlan :=
  { p with spoils := fun n => 0 < k && n == attempts + k - 1 }

end FaultPlan

/-- A line of the journal. -/
inductive Entry where
  /-- A call that is no creation. -/
  | performed (call : Call)
  /-- A creation and the name it gave. -/
  | created (what : Creation) (name : Nat)
  | refused (what : Creation)
deriving DecidableEq, Repr

/-- A driver with a fault plan and a journal. -/
structure Device where
  driver : Driver
  faults : FaultPlan
  creations : Nat
  compilations : Nat
  /-- What was done, the latest first. -/
  journal : List Entry

namespace Device

def create (profile : Profile) : Device := ⟨Driver.create profile, .none, 0, 0, []⟩

/-- Performs a call and notes it. -/
def perform (d : Device) (call : Call) : Device :=
  { d with driver := d.driver.perform call, journal := .performed call :: d.journal }

/-- Performs calls one after the other. -/
def performAll (d : Device) (calls : List Call) : Device := calls.foldl perform d

/-- Attempts a creation: the name of the new object, or a failure if the plan refuses it. -/
def attempt (d : Device) (what : Creation) : Except Failure Nat × Device :=
  let next := { d with creations := d.creations + 1 }
  if d.faults.refuses d.creations then
    (.error (.driver ("refused " ++ what.kind.word)),
      { next with journal := .refused what :: d.journal })
  else
    let name := d.driver.objects.issued + 1
    (.ok name,
      { next with
        driver := d.driver.perform (.create what)
        journal := .created what name :: d.journal })

/-- Compiles a text as a shader and says whether it compiled. A spoiled compilation fails, and
afterwards the driver pretends no more that compilations fail. -/
def compile (d : Device) (id : ShaderId) (source : String) : Bool × Device :=
  let pretend (fail : Bool) (d : Device) : Device :=
    let pretence := { d.driver.pretence with failCompile := fail }
    { d with driver := { d.driver with pretence := pretence } }
  let next := { d with compilations := d.compilations + 1 }
  let after :=
    if d.faults.spoils d.compilations then
      pretend false ((pretend true next).perform (.compile id source))
    else next.perform (.compile id source)
  (after.driver.isCompiled id, after)

/-- Links a program and says whether it linked. -/
def link (d : Device) (id : ProgramId) : Bool × Device :=
  let after := d.perform (.link id)
  (after.driver.isLinked id, after)

/-- The colour of a pixel of the read target. -/
def readColor (d : Device) (x y : Nat) : Pixel × Device :=
  (d.driver.readFill.color, d.perform (.readColor x y))

/-- The depth of a pixel of the read target. -/
def readDepth (d : Device) (x y : Nat) : Single × Device :=
  (d.driver.readFill.depth, d.perform (.readDepth x y))

/-- The stencil value of a pixel of the read target. -/
def readStencil (d : Device) (x y : Nat) : UInt8 × Device :=
  (d.driver.readFill.stencil, d.perform (.readStencil x y))

/-- Applies a change that is no call, such as losing the context. -/
def modifyDriver (d : Device) (f : Driver → Driver) : Device := { d with driver := f d.driver }

end Device

end Compositor
