/-!
# Contexts

A context value names the driver context that objects were made in, so that they can be told from
those of a context that is gone.
-/

namespace Compositor

/-- The identity of a driver context. -/
inductive Context where
  /-- No context has been reported yet. -/
  | uninitialized
  /-- A context that was current when it was reported. -/
  | live (id : Nat)
deriving DecidableEq, Repr, Inhabited

namespace Context

/-- The context for an identifier given by the host, where zero stands for no context. -/
def ofId (id : Nat) : Context := if id = 0 then uninitialized else live id

/-- The identifier of a live context. -/
def id? : Context → Option Nat
  | uninitialized => none
  | live id => some id

/-- Whether a context was reported. -/
def isLive (c : Context) : Bool := c.id?.isSome

/-- Whether both are live and name one context. -/
def coincides : Context → Context → Bool
  | live a, live b => a = b
  | _, _ => false

/-- Whether objects made under one may be used under the other. The uninitialized context goes with
every other, so that objects made before a context was reported stay valid; therefore the relation
is reflexive and symmetric and not transitive. -/
def compatible : Context → Context → Bool
  | live a, live b => a = b
  | _, _ => true

theorem compatible_self (c : Context) : c.compatible c = true := by
  cases c <;> simp [compatible]

theorem compatible_comm (c d : Context) : c.compatible d = d.compatible c := by
  cases c <;> cases d <;> simp [compatible, eq_comm]

theorem compatible_of_coincides {c d : Context} (h : c.coincides d = true) :
    c.compatible d = true := by
  cases c <;> cases d <;> simp_all [coincides, compatible]

/-- Between live contexts compatibility is equality. -/
theorem compatible_iff_of_isLive {c d : Context} (hc : c.isLive = true) (hd : d.isLive = true) :
    c.compatible d = true ↔ c = d := by
  cases c with
  | uninitialized => cases hc
  | live a =>
    cases d with
    | uninitialized => cases hd
    | live b => simp [compatible]

theorem coincides_iff {c d : Context} : c.coincides d = true ↔ c = d ∧ c.isLive = true := by
  cases c <;> cases d <;> simp [coincides, isLive, id?]

end Context

end Compositor
