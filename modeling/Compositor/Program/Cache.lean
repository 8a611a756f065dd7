import Compositor.Context
import Compositor.Program.Build

/-!
# The program cache

One program for each purpose, built when it is first wanted and again when the context is another
one. A program that could not be built stays that way until then, and draws that want it are left
out.
-/

namespace Compositor

/-- What the cache holds for a purpose. -/
structure CachedProgram where
  /-- The context that the program was built in. -/
  owner : Context
  /-- The program, or why there is none. So an entry notes a failure exactly where it has no
  program: no value of this type has both or neither. -/
  outcome : Except Failure BuiltProgram

namespace CachedProgram

def built? (c : CachedProgram) : Option BuiltProgram := c.outcome.toOption

/-- Why there is no program. -/
def failure? (c : CachedProgram) : Option Failure :=
  match c.outcome with
  | .ok _ => none
  | .error failure => some failure

end CachedProgram

/-- What the cache was used for. -/
structure CacheStatistics where
  builds : Nat
  hits : Nat
  compileFailures : Nat
  linkFailures : Nat
deriving DecidableEq, Repr, Inhabited

namespace CacheStatistics

/-- The statistics after one more attempt to build a program. -/
def countBuild {α : Type} (s : CacheStatistics) (outcome : Except Failure α) : CacheStatistics :=
  let s := { s with builds := s.builds + 1 }
  match outcome with
  | .error (.shaderCompile ..) => { s with compileFailures := s.compileFailures + 1 }
  | .error (.shaderLink _) => { s with linkFailures := s.linkFailures + 1 }
  | _ => s

end CacheStatistics

structure ProgramCache where
  /-- What is held for a purpose. -/
  cached? : Purpose → Option CachedProgram
  statistics : CacheStatistics

namespace ProgramCache

def empty : ProgramCache := ⟨fun _ => none, ⟨0, 0, 0, 0⟩⟩

instance : Inhabited ProgramCache where
  default := empty

def insert (c : ProgramCache) (purpose : Purpose) (entry : CachedProgram) : ProgramCache :=
  { c with cached? := fun p => if p = purpose then some entry else c.cached? p }

/-- The entry for a purpose if it can be used in a context. -/
def usable? (c : ProgramCache) (purpose : Purpose) (context : Context) :
    Option CachedProgram :=
  (c.cached? purpose).filter (·.owner.compatible context)

/-- The entry for a purpose, built if there is none that can be used in the context. -/
def entry (c : ProgramCache) (purpose : Purpose) (context : Context) (d : Device) :
    CachedProgram × ProgramCache × Device :=
  match c.usable? purpose context with
  | some entry =>
    (entry, { c with statistics := { c.statistics with hits := c.statistics.hits + 1 } }, d)
  | none =>
    let (outcome, d) := d.buildProgram purpose
    let entry : CachedProgram := ⟨context, outcome⟩
    (entry, { c with statistics := c.statistics.countBuild outcome }.insert purpose entry, d)

/-- Why there is no program for a purpose, if the last attempt to build it failed. -/
def failure? (c : ProgramCache) (purpose : Purpose) : Option Failure :=
  (c.cached? purpose).bind (·.failure?)

/-- Empties the cache. Programs that can be used in the context are deleted; the others went with
their contexts. -/
def release (c : ProgramCache) (context : Context) (d : Device) : ProgramCache × Device :=
  let programs := Purpose.all.filterMap fun p => (c.usable? p context).bind (·.built?)
  ({ c with cached? := fun _ => none }, programs.foldl (fun d p => p.delete d) d)

end ProgramCache

end Compositor
