import Compositor.Proofs.Device.Reachable

/-!
# Incidents

What happens at a device that its surface has no part in. Whatever it is, the objects stay regular
and no name is handed out twice.
-/

namespace Compositor

open Numeric

/-- What happens at a driver without the surface: calls of the application, faults, and the loss of
the context. -/
inductive Incident where
  | call (call : Call)
  | attempt (what : Creation)
  | compile (id : ShaderId) (source : String)
  | setFaults (faults : FaultPlan)
  | pretend (pretence : Pretence)
  | freshContext
  | loseContext

/-- The identity was handed out when there were `contexts` of them. -/
def Context.IsDated (c : Context) (contexts : Nat) : Prop := ∀ n, c = .live n → n ≤ contexts

theorem Context.IsDated.mono {c : Context} {m n : Nat} (h : c.IsDated m) (hle : m ≤ n) :
    c.IsDated n :=
  fun a ha => Nat.le_trans (h a ha) hle

/-- Whether the context is lost. -/
def Incident.isLoss : Incident → Bool
  | loseContext => true
  | _ => false

theorem Incident.eq_loseContext {i : Incident} (h : i.isLoss = true) : i = loseContext := by
  cases i <;> first | rfl | cases h

namespace Device

/-- The device after an incident. -/
def undergo (d : Device) : Incident → Device
  | .call call => d.perform call
  | .attempt what => (d.attempt what).2
  | .compile id source => (d.compile id source).2
  | .setFaults faults => { d with faults := faults }
  | .pretend pretence => d.modifyDriver ({ · with pretence := pretence })
  | .freshContext => d.modifyDriver (·.freshContext.2)
  | .loseContext => d.modifyDriver (·.loseContext)

theorem regular_undergo {d : Device} (hr : d.driver.objects.Regular) (i : Incident) :
    (d.undergo i).driver.objects.Regular := by
  cases i with
  | call call => exact (d.driver.edits_perform call).regular hr
  | attempt what => exact (d.edits_attempt what).regular hr
  | compile id source => exact (d.edits_compile id source).regular hr
  | loseContext => exact Objects.regular_emptyAfter _
  | _ => exact hr

/-- Names go on from where they were, also in a new context. -/
theorem issued_le_undergo (d : Device) (i : Incident) :
    d.driver.objects.issued ≤ (d.undergo i).driver.objects.issued := by
  cases i with
  | call call => exact (d.driver.edits_perform call).issued_le
  | attempt what => exact (d.edits_attempt what).issued_le
  | compile id source => exact (d.edits_compile id source).issued_le
  | _ => exact Nat.le_refl _

/-- As long as the context is not lost, its objects change one at a time. -/
theorem undergo_of_not_isLoss (d : Device) {i : Incident} (h : i.isLoss = false) :
    d.driver.objects.Edits (d.undergo i).driver.objects ∧
      (d.undergo i).driver.context = d.driver.context ∧
      d.driver.contexts ≤ (d.undergo i).driver.contexts := by
  cases i with
  | call call =>
    exact ⟨d.driver.edits_perform call, d.driver.context_perform call,
      Nat.le_of_eq (d.driver.contexts_perform call).symm⟩
  | attempt what =>
    have hhost := d.sameHost_attempt what
    exact ⟨d.edits_attempt what, hhost.context, Nat.le_of_eq hhost.contexts.symm⟩
  | compile id source =>
    have hhost := d.sameHost_compile id source
    exact ⟨d.edits_compile id source, hhost.context, Nat.le_of_eq hhost.contexts.symm⟩
  | setFaults faults => exact ⟨.refl, rfl, Nat.le_refl _⟩
  | pretend pretence => exact ⟨.refl, rfl, Nat.le_refl _⟩
  | freshContext => exact ⟨.refl, rfl, Nat.le_succ _⟩
  | loseContext => cases h

/-- A context that was handed out is not the one after a loss. -/
theorem ne_loseContext {d : Device} {c : Context} (hc : c.IsDated d.driver.contexts) :
    c ≠ (d.undergo .loseContext).driver.context := by
  rintro rfl
  exact absurd (hc _ rfl) (Nat.not_succ_le_self _)

end Device

end Compositor
