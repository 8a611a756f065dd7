import Compositor.Proofs.Device.Balance
import Compositor.Proofs.Device.Incident
import Compositor.Proofs.Trail
import Mathlib.Algebra.BigOperators.Group.List.Basic
import Mathlib.Algebra.GroupWithZero.Nat

/-!
# The ledger of a device

Whatever is done to a device, with whatever names, the handles that its creations return go up by
name, and only what was returned is ever live. What was created is there, was deleted, or went with
a context. A creation may be refused for any reason, also because the names ran out: a refusal
returns nothing and changes no table.
-/

namespace Compositor

/-! ## Single calls -/

namespace Driver

variable {d : Driver}

/-- A deletion is counted just when its object is live, and otherwise nothing changes. -/
theorem deletion_perform (d : Driver) {c : Call} {x : Handle} (h : c.deletes? = some x) :
    ((d.perform c).statistics.deleted = d.statistics.deleted + 1 ↔ d.objects.Live x) ∧
      (∀ y, (d.perform c).objects.stored? y = if y = x then none else d.objects.stored? y) ∧
      (¬ d.objects.Live x → (d.perform c).statistics.deleted = d.statistics.deleted ∧
        (d.perform c).objects = d.objects) := by
  have hcount := d.deleted_perform h
  have habsent (hx : ¬ d.objects.Live x) :
      (d.perform c).statistics.deleted = d.statistics.deleted := by
    rw [hcount, not_not.mp hx]
    rfl
  refine ⟨⟨fun hmore => ?_, fun hx => ?_⟩, stored?_perform_of_deletes h,
    fun hx => ⟨habsent hx, objects_perform_of_not_live h hx⟩⟩
  · by_contra hx
    have hsame := habsent hx
    omega
  · rw [hcount, Option.isSome_iff_ne_none.mpr hx, Bool.toNat_true]

end Driver

namespace Device

variable {d : Device} {i : Incident} {x : Handle}

/-! ## What a run returns and loses -/

/-- The handle that a creation returns, if it is not refused. -/
def returned? (d : Device) : Incident → Option Handle
  | .call c => c.creates?.map fun what => ⟨what.kind, d.driver.objects.issued + 1⟩
  | .attempt what => (d.attempt what).1.toOption.map fun name => ⟨what.kind, name⟩
  | _ => none

/-- The handles that the creations of a run return, one after the other. -/
def returns (d : Device) (is : List Incident) : List Handle :=
  (trail undergo d is).filterMap fun step => step.1.returned? step.2

/-- How many objects go with the context when something happens. -/
def swept (d : Device) (i : Incident) : Nat := if i.isLoss then d.driver.objects.count else 0

/-- How many objects went with a context in a run. -/
def lost (d : Device) (is : List Incident) : Nat :=
  ((trail undergo d is).map fun step => step.1.swept step.2).sum

theorem returns_cons (d : Device) (i : Incident) (is : List Incident) :
    d.returns (i :: is) = (d.returned? i).toList ++ (d.undergo i).returns is := by
  rw [returns, trail, List.filterMap_cons]
  cases d.returned? i <;> rfl

theorem lost_cons (d : Device) (i : Incident) (is : List Incident) :
    d.lost (i :: is) = d.swept i + (d.undergo i).lost is := by
  rw [lost, trail, List.map_cons, List.sum_cons]
  rfl

/-! ## Steps -/

/-- An incident makes the object whose handle it returns, or returns none and makes none. -/
theorem undergo_cases (d : Device) (i : Incident) :
    (∃ what, d.returned? i = some ⟨what.kind, d.driver.objects.issued + 1⟩ ∧
      (d.undergo i).driver = d.driver.perform (.create what)) ∨
    (d.returned? i = none ∧ ∀ y, (d.undergo i).Live y → d.Live y) := by
  cases i with
  | call c =>
    cases hc : c.creates? with
    | some what =>
      obtain rfl := Call.eq_create hc
      exact Or.inl ⟨what, rfl, rfl⟩
    | none =>
      refine Or.inr ⟨by rw [returned?, hc]; rfl, fun y hy => ?_⟩
      exact Driver.live_of_perform hc hy
  | attempt what =>
    rcases ha : d.attempt what with ⟨failure | name, e⟩
    · refine Or.inr ⟨by rw [returned?, ha]; rfl, fun y hy => ?_⟩
      rwa [undergo, ha, Live, (attempt_error ha).2.2.1] at hy
    · obtain ⟨rfl, he, -⟩ := attempt_ok ha
      exact Or.inl ⟨what, by rw [returned?, ha]; rfl, by rw [undergo, ha, he]⟩
  | compile id source => exact Or.inr ⟨rfl, fun y => (d.live_compile id source y).mp⟩
  | loseContext => exact Or.inr ⟨rfl, fun y hy => absurd hy (Objects.not_live_emptyAfter _ y)⟩
  | _ => exact Or.inr ⟨rfl, fun _ hy => hy⟩

theorem name_of_returned? (h : d.returned? i = some x) :
    x.name = d.driver.objects.issued + 1 ∧
      (d.undergo i).driver.objects.issued = d.driver.objects.issued + 1 := by
  obtain ⟨what, hreturned, hmade⟩ | ⟨hnone, -⟩ := d.undergo_cases i
  · obtain rfl := Option.some.inj (h.symm.trans hreturned)
    exact ⟨rfl, by rw [hmade, Driver.issued_perform_create]⟩
  · rw [hnone] at h
    cases h

theorem live_undergo (h : (d.undergo i).Live x) : d.Live x ∨ d.returned? i = some x := by
  obtain ⟨what, hreturned, hmade⟩ | ⟨-, hlive⟩ := d.undergo_cases i
  · rw [Live, hmade, Objects.Live, Driver.stored?_perform_create] at h
    split at h
    · rename_i hx
      exact Or.inr (hx ▸ hreturned)
    · exact Or.inl h
  · exact Or.inl (hlive x h)

/-- While the context is kept, the counts and the objects go together. -/
theorem balances_undergo (hr : d.driver.objects.Regular) (h : i.isLoss = false) :
    d.driver.Balances (d.undergo i).driver := by
  cases i with
  | call c => exact Driver.balances_perform hr c
  | attempt what =>
    have hconfined : d.Confined (fun _ => True) _ := Confined.refl.attempt what trivial
    exact hconfined.balances hr
  | compile id source =>
    have hconfined : d.Confined (fun _ => True) _ := Confined.refl.compile id source trivial
    exact hconfined.balances hr
  | loseContext => cases h
  | _ => rfl

theorem created_undergo (hr : d.driver.objects.Regular) (i : Incident) :
    (d.undergo i).driver.statistics.created + d.driver.statistics.deleted +
        d.driver.objects.count =
      d.driver.statistics.created + (d.undergo i).driver.statistics.deleted +
        (d.undergo i).driver.objects.count + d.swept i := by
  cases hloss : i.isLoss with
  | true =>
    obtain rfl := Incident.eq_loseContext hloss
    have hnone : (d.undergo .loseContext).driver.objects.count = 0 := rfl
    rw [hnone, swept, if_pos hloss]
    rfl
  | false =>
    have hbalance := balances_undergo hr hloss
    rw [Driver.Balances, Objects.length_handles, Objects.length_handles] at hbalance
    simp only [swept, hloss]
    exact hbalance

/-! ## Runs -/

theorem reachable_undergo (h : d.Reachable) (i : Incident) : (d.undergo i).Reachable := by
  cases i with
  | call c => exact h.perform c
  | attempt what => exact h.attempt what
  | compile id source => exact h.compile id source
  | setFaults faults => exact h.setFaults faults
  | pretend pretence => exact h.setPretence pretence
  | freshContext => exact h.freshContext
  | loseContext => exact h.loseContext

theorem reachable_run (h : d.Reachable) (is : List Incident) :
    (is.foldl undergo d).Reachable := by
  induction is generalizing d with
  | nil => exact h
  | cons i is ih => exact ih (reachable_undergo h i)

/-- The returned names go up, from those that were handed out before. -/
theorem pairwise_returns (d : Device) (is : List Incident) :
    (d.returns is).Pairwise (·.name < ·.name) ∧
      ∀ x ∈ d.returns is, d.driver.objects.issued < x.name := by
  induction is generalizing d with
  | nil => exact ⟨.nil, nofun⟩
  | cons i is ih =>
    obtain ⟨hup, habove⟩ := ih (d.undergo i)
    rw [returns_cons]
    cases h : d.returned? i with
    | none =>
      refine ⟨hup, fun x hx => ?_⟩
      exact Nat.lt_of_le_of_lt (d.issued_le_undergo i) (habove x hx)
    | some x =>
      obtain ⟨hname, hissued⟩ := name_of_returned? h
      have hlater : ∀ y ∈ (d.undergo i).returns is, x.name < y.name := by
        intro y hy
        have hy := habove y hy
        omega
      refine ⟨hup.cons hlater, List.forall_mem_cons.mpr ⟨by omega, fun y hy => ?_⟩⟩
      have hy := hlater y hy
      omega

/-- What is live after a run was live before it or was returned. -/
theorem live_run {is : List Incident} (h : (is.foldl undergo d).Live x) :
    d.Live x ∨ x ∈ d.returns is := by
  induction is generalizing d with
  | nil => exact Or.inl h
  | cons i is ih =>
    rw [returns_cons, List.mem_append, Option.mem_toList]
    obtain hlive | hreturned := ih h
    · obtain hlive | hreturned := live_undergo hlive
      · exact Or.inl hlive
      · exact Or.inr (Or.inl hreturned)
    · exact Or.inr (Or.inr hreturned)

/-- What was created in a run is there, was deleted, or went with a context. -/
theorem created_run (hd : d.Reachable) (is : List Incident) :
    (is.foldl undergo d).driver.statistics.created + d.driver.statistics.deleted +
        d.driver.objects.count =
      d.driver.statistics.created + (is.foldl undergo d).driver.statistics.deleted +
        (is.foldl undergo d).driver.objects.count + d.lost is := by
  induction is generalizing d with
  | nil => rfl
  | cons i is ih =>
    have hstep := created_undergo hd.regular i
    have hrest := ih (reachable_undergo hd i)
    rw [lost_cons, List.foldl_cons]
    omega

/-- The ledger of a new device after anything that was done to it. -/
theorem ledger_of_incidents (profile : Profile) (is : List Incident) :
    let d := create profile
    let e := is.foldl undergo d
    (d.returns is).Pairwise (·.name < ·.name) ∧
      e.driver.objects.names.Nodup ∧
      (∀ x ∈ e.driver.objects.handles, x ∈ d.returns is) ∧
      e.driver.statistics.created =
        e.driver.objects.count + e.driver.statistics.deleted + d.lost is ∧
      ∀ (c : Call) (x : Handle), c.deletes? = some x →
        let f := e.undergo (.call c)
        (f.driver.statistics.deleted = e.driver.statistics.deleted + 1 ↔ e.Live x) ∧
          (∀ y, f.driver.objects.stored? y =
            if y = x then none else e.driver.objects.stored? y) ∧
          (¬ e.Live x → f.driver.statistics.deleted = e.driver.statistics.deleted ∧
            f.driver.objects = e.driver.objects) := by
  intro d e
  have hd : d.Reachable := .create profile
  have he : e.Reachable := reachable_run hd is
  refine ⟨(d.pairwise_returns is).1, he.isNamed.nodup_names he.regular, fun x hx => ?_, ?_,
    fun c x hx => e.driver.deletion_perform hx⟩
  · obtain hold | hreturned := live_run ((Objects.mem_handles_iff _ _).mp hx)
    · exact absurd hold (Objects.not_live_emptyAfter 0 x)
    · exact hreturned
  · have hcreated : e.driver.statistics.created + 0 + 0 =
        0 + e.driver.statistics.deleted + e.driver.objects.count + d.lost is := created_run hd is
    omega

/-- A texture is deleted, a framebuffer goes with its context, a shader is made in the next one, and
the texture is deleted once more. -/
theorem ledger_of_deletion_after_loss :
    let d := create .full
    let is : List Incident := [.attempt .texture, .call (.create .framebuffer),
      .call (.deleteTexture ⟨1⟩), .loseContext, .attempt (.shader .vertex)]
    let e := is.foldl undergo d
    let f := e.undergo (.call (.deleteTexture ⟨1⟩))
    (d.returns is).map (·.name) = [1, 2, 3] ∧ d.lost is = 1 ∧
      e.driver.statistics.created = e.driver.objects.count + e.driver.statistics.deleted + 1 ∧
      f.driver.statistics.deleted = 1 ∧ f.driver.objects = e.driver.objects := by
  intro d is e f
  obtain ⟨-, -, -, hcreated, hdelete⟩ := ledger_of_incidents .full is
  have hgone : ¬ e.Live ⟨.texture, 1⟩ := fun h => h rfl
  obtain ⟨-, -, hidle⟩ := hdelete (.deleteTexture ⟨1⟩) _ rfl
  obtain ⟨hcount, hobjects⟩ := hidle hgone
  exact ⟨rfl, rfl, hcreated, hcount, hobjects⟩

end Device

end Compositor
