import Compositor.Proofs.Device.Growth

/-!
# Reachable devices

The devices that come about from a new one by anything that can be done to a device: calls,
creations and compilations, a change of the fault plan or of what is pretended, contexts that are
handed out, and the loss of the context.
-/

namespace Compositor

namespace Device

/-- The device came about from a new one. -/
inductive Reachable : Device → Prop where
  | create (profile : Profile) : Reachable (create profile)
  | perform {d : Device} (c : Call) : Reachable d → Reachable (d.perform c)
  | attempt {d : Device} (what : Creation) : Reachable d → Reachable (d.attempt what).2
  | compile {d : Device} (id : ShaderId) (source : String) :
    Reachable d → Reachable (d.compile id source).2
  | setFaults {d : Device} (faults : FaultPlan) :
    Reachable d → Reachable { d with faults := faults }
  | setPretence {d : Device} (pretence : Pretence) :
    Reachable d → Reachable (d.modifyDriver ({ · with pretence := pretence }))
  | freshContext {d : Device} : Reachable d → Reachable (d.modifyDriver (·.freshContext.2))
  | loseContext {d : Device} : Reachable d → Reachable (d.modifyDriver (·.loseContext))

/-- A compilation is the call under some pretence, which may be another one afterwards. -/
theorem compile_driver (d : Device) (id : ShaderId) (source : String) :
    ∃ during after : Bool, (d.compile id source).2.driver =
      { Driver.perform
          { d.driver with pretence := { d.driver.pretence with failCompile := during } }
          (.compile id source) with
        pretence := { d.driver.pretence with failCompile := after } } := by
  unfold compile
  dsimp only
  split
  · exact ⟨true, false, rfl⟩
  · exact ⟨d.driver.pretence.failCompile, d.driver.pretence.failCompile, rfl⟩

theorem edits_compile (d : Device) (id : ShaderId) (source : String) :
    d.driver.objects.Edits (d.compile id source).2.driver.objects := by
  obtain ⟨during, after, h⟩ := d.compile_driver id source
  rw [h]
  exact Driver.edits_perform
    { d.driver with pretence := { d.driver.pretence with failCompile := during } } _

theorem edits_attempt (d : Device) (what : Creation) :
    d.driver.objects.Edits (d.attempt what).2.driver.objects := by
  unfold attempt
  dsimp only
  split
  · exact .refl
  · exact d.driver.edits_perform _

/-- A compilation changes the outline of its shader alone. -/
theorem outline_compile (d : Device) {id : ShaderId} (source : String) {x : Handle}
    (hx : x ≠ id.handle) :
    (d.compile id source).2.driver.objects.outline? x = d.driver.objects.outline? x := by
  obtain ⟨during, after, h⟩ := d.compile_driver id source
  rw [h]
  refine Driver.outline?_perform fun ht => ?_
  cases ht
  exact hx rfl

theorem live_compile (d : Device) (id : ShaderId) (source : String) (x : Handle) :
    (d.compile id source).2.Live x ↔ d.Live x := by
  obtain ⟨during, after, h⟩ := d.compile_driver id source
  rw [Live, h]
  exact Driver.live_perform_of_keeps
    { d.driver with pretence := { d.driver.pretence with failCompile := during } } rfl rfl x

theorem sameHost_compile (d : Device) (id : ShaderId) (source : String) :
    d.SameHost (d.compile id source).2 := by
  obtain ⟨during, after, h⟩ := d.compile_driver id source
  refine ⟨by rw [h]; rfl, by rw [h]; rfl, by rw [h]; rfl, ?_⟩
  unfold compile
  dsimp only
  split <;> rfl

theorem sameHost_attempt (d : Device) (what : Creation) : d.SameHost (d.attempt what).2 := by
  rcases ha : d.attempt what with ⟨failure | name, e⟩
  · exact (grows_refused ha).host
  · exact (grows_attempt ha).host

/-- An attempted creation leaves live objects alone. -/
theorem outline_attempt {d : Device} (hr : d.driver.objects.Regular) (what : Creation) {x : Handle}
    (hx : d.Live x) :
    (d.attempt what).2.driver.objects.outline? x = d.driver.objects.outline? x := by
  rcases ha : d.attempt what with ⟨failure | name, e⟩
  · exact (grows_refused ha).outline_of_live hr hx
  · exact (grows_attempt ha).outline_of_live hr hx

/-- The objects of a reachable device are regular. -/
theorem Reachable.regular {d : Device} (h : d.Reachable) : d.driver.objects.Regular := by
  induction h with
  | create profile => exact Objects.regular_emptyAfter 0
  | perform c _ ih => exact (Driver.edits_perform _ c).regular ih
  | attempt what _ ih => exact (edits_attempt _ what).regular ih
  | compile id source _ ih => exact (edits_compile _ id source).regular ih
  | setFaults _ _ ih => exact ih
  | setPretence _ _ ih => exact ih
  | freshContext _ ih => exact ih
  | loseContext _ _ => exact Objects.regular_emptyAfter _

theorem Reachable.performAll {d : Device} (h : d.Reachable) (calls : List Call) :
    (d.performAll calls).Reachable := by
  induction calls generalizing d with
  | nil => exact h
  | cons c calls ih => exact ih (h.perform c)

/-- Orderly operation stays within the reachable devices. -/
theorem Orderly.reachable {d e : Device} (h : d.Orderly e) (hd : d.Reachable) : e.Reachable := by
  induction h with
  | refl => exact hd
  | perform _ _ ih => exact ih.perform _
  | attempt what _ ih => exact ih.attempt what
  | compile id source _ ih => exact ih.compile id source

end Device

end Compositor
