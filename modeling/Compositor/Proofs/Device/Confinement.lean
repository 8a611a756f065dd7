import Compositor.Proofs.Device.Reachable

/-!
# Operations confined to some calls

Most operations use a few kinds of calls and no others. What these calls keep, the operations keep,
whatever becomes of the creations that are attempted and of the compilations.
-/

namespace Compositor

namespace Device

/-- The device gets from `d` to another state by calls of a kind only, where creations and
compilations that are attempted count as calls. -/
inductive Confined (kind : Call → Prop) (d : Device) : Device → Prop where
  | refl : Confined kind d d
  | perform {e : Device} {c : Call} : Confined kind d e → kind c → Confined kind d (e.perform c)
  | attempt {e : Device} (what : Creation) : Confined kind d e → kind (.create what) →
    Confined kind d (e.attempt what).2
  | compile {e : Device} (id : ShaderId) (source : String) : Confined kind d e →
    kind (.compile id source) → Confined kind d (e.compile id source).2

namespace Confined

variable {d e f : Device} {kind other : Call → Prop}

theorem trans (h : d.Confined kind e) (h' : e.Confined kind f) : d.Confined kind f := by
  induction h' with
  | refl => exact h
  | perform _ hc ih => exact ih.perform hc
  | attempt what _ hc ih => exact ih.attempt what hc
  | compile id source _ hc ih => exact ih.compile id source hc

theorem mono (h : d.Confined kind e) (hk : ∀ c, kind c → other c) : d.Confined other e := by
  induction h with
  | refl => exact .refl
  | perform _ hc ih => exact ih.perform (hk _ hc)
  | attempt what _ hc ih => exact ih.attempt what (hk _ hc)
  | compile id source _ hc ih => exact ih.compile id source (hk _ hc)

theorem performAll (h : d.Confined kind e) {calls : List Call} (hc : ∀ c ∈ calls, kind c) :
    d.Confined kind (e.performAll calls) := by
  induction calls generalizing e with
  | nil => exact h
  | cons c calls ih =>
    obtain ⟨hfirst, hrest⟩ := List.forall_mem_cons.mp hc
    exact ih (h.perform hfirst) hrest

/-- What every call of the kind keeps, whatever is pretended, is kept by the operation. -/
theorem keeps (h : d.Confined kind e) {P : Driver → Prop}
    (step : ∀ c, kind c → ∀ v, P v → P (v.perform c))
    (pretend : ∀ v (pretence : Pretence), P v → P { v with pretence := pretence })
    (hd : P d.driver) : P e.driver := by
  induction h with
  | refl => exact hd
  | perform _ hc ih => exact step _ hc _ ih
  | @attempt e what _ hc ih =>
    rcases ha : e.attempt what with ⟨failure | name, e'⟩
    · rw [(attempt_error ha).2.2.1]
      exact ih
    · rw [(attempt_ok ha).2.1]
      exact step _ hc _ ih
  | @compile e id source _ hc ih =>
    obtain ⟨during, after, he⟩ := e.compile_driver id source
    rw [he]
    exact pretend _ _ (step _ hc _ (pretend _ _ ih))

end Confined

end Device

end Compositor
