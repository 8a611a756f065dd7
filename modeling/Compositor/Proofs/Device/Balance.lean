import Compositor.Proofs.Device.Confinement
import Compositor.Proofs.Device.Counting

/-!
# The balance of objects

A driver counts the objects that it makes and those that it deletes. As long as it keeps its
context, the two counts and the number of objects go together: what was made is there or was
deleted. So what an operation made and deleted can be read off the objects before and after it.

No name is given to two objects, also if they are of different kinds.
-/

namespace Compositor

/-! ## Counts -/

namespace Call

theorem created_tally (c : Call) (gone : Bool) (s : Statistics) :
    (c.tally gone s).created = s.created + c.creates?.isSome.toNat := by
  cases c with
  | create what =>
    cases what <;>
      simp only [tally, creates?, Statistics.created, Statistics.bufferAllocations,
        Option.isSome_some, Bool.toNat_true] <;> omega
  | _ => rfl

theorem deleted_tally (c : Call) (gone : Bool) (s : Statistics) :
    (c.tally gone s).deleted =
      if c.deletes?.isSome then s.deleted + gone.toNat else s.deleted := by
  cases c with
  | create what => cases what <;> rfl
  | _ => rfl

end Call

namespace Driver

variable {d e f : Driver}

/-- A creation is counted. -/
theorem created_perform (d : Driver) (c : Call) :
    (d.perform c).statistics.created = d.statistics.created + c.creates?.isSome.toNat := by
  rw [statistics_perform, Call.created_tally]

/-- The deletion of a live object is counted. -/
theorem deleted_perform {c : Call} {x : Handle} (h : c.deletes? = some x) :
    (d.perform c).statistics.deleted =
      d.statistics.deleted + (d.objects.stored? x).isSome.toNat := by
  rw [statistics_perform, Call.deleted_tally, h]
  rfl

theorem deleted_perform_of_keeps {c : Call} (h : c.deletes? = none) :
    (d.perform c).statistics.deleted = d.statistics.deleted := by
  rw [statistics_perform, Call.deleted_tally, h]
  rfl

/-! ## Objects -/

theorem length_handles_create (hr : d.objects.Regular) (what : Creation) :
    (d.perform (.create what)).objects.handles.length = d.objects.handles.length + 1 := by
  have hr' := (d.edits_perform (.create what)).regular hr
  have hnew : (⟨what.kind, d.objects.issued + 1⟩ : Handle) ∉ d.objects.handles := by
    intro hm
    have := hr.name_le _ ((Objects.mem_handles_iff _ _).mp hm)
    dsimp only at this
    omega
  refine (hr'.handles_perm (hr.nodup_handles.cons hnew) fun x => ?_).length_eq
  rw [Objects.Live, stored?_perform_create, List.mem_cons, Objects.mem_handles_iff]
  by_cases hx : x = ⟨what.kind, d.objects.issued + 1⟩ <;> simp [hx, Objects.Live]

theorem length_handles_delete (hr : d.objects.Regular) {c : Call} {x : Handle}
    (hc : c.deletes? = some x) :
    (d.perform c).objects.handles.length + (d.objects.stored? x).isSome.toNat =
      d.objects.handles.length := by
  have hr' := (d.edits_perform c).regular hr
  have hperm : (d.perform c).objects.handles.Perm (d.objects.handles.erase x) := by
    refine hr'.handles_perm (hr.nodup_handles.erase x) fun y => ?_
    rw [hr.nodup_handles.mem_erase_iff, Objects.mem_handles_iff, Objects.Live,
      stored?_perform_of_deletes hc]
    by_cases hy : y = x <;> simp [hy, Objects.Live]
  rw [hperm.length_eq]
  cases hs : (d.objects.stored? x).isSome with
  | true =>
    have hm : x ∈ d.objects.handles :=
      (Objects.mem_handles_iff _ _).mpr (Option.isSome_iff_ne_none.mp hs)
    have hpos := List.length_pos_of_mem hm
    rw [List.length_erase_of_mem hm, Bool.toNat_true]
    omega
  | false =>
    have hm : x ∉ d.objects.handles := by
      rw [Objects.mem_handles_iff, Objects.Live, ← Option.isSome_iff_ne_none, hs]
      exact Bool.false_ne_true
    rw [List.erase_of_not_mem hm, Bool.toNat_false, Nat.add_zero]

theorem length_handles_of_keeps (hr : d.objects.Regular) {c : Call} (hc : c.creates? = none)
    (hd : c.deletes? = none) :
    (d.perform c).objects.handles.length = d.objects.handles.length := by
  have hr' := (d.edits_perform c).regular hr
  refine (hr'.handles_perm hr.nodup_handles fun x => ?_).length_eq
  rw [d.live_perform_of_keeps hc hd, Objects.mem_handles_iff]

/-! ## The balance -/

/-- From `d` to `e` as many objects were made as were deleted or came to be there. -/
def Balances (d e : Driver) : Prop :=
  e.statistics.created + d.statistics.deleted + d.objects.handles.length =
    d.statistics.created + e.statistics.deleted + e.objects.handles.length

theorem Balances.trans (h : d.Balances e) (h' : e.Balances f) : d.Balances f := by
  unfold Balances at h h' ⊢
  omega

theorem balances_perform (hr : d.objects.Regular) (c : Call) : d.Balances (d.perform c) := by
  have hcreated := d.created_perform c
  unfold Balances
  cases hc : c.creates? with
  | some what =>
    obtain rfl := Call.eq_create hc
    have hdeleted := d.deleted_perform_of_keeps (c := .create what) rfl
    have hlength := length_handles_create hr what
    rw [hc] at hcreated
    simp only [Option.isSome_some, Bool.toNat_true] at hcreated
    omega
  | none =>
    rw [hc] at hcreated
    simp only [Option.isSome_none, Bool.toNat_false] at hcreated
    cases hd : c.deletes? with
    | some x =>
      have hdeleted := deleted_perform (d := d) hd
      have hlength := length_handles_delete hr hd
      omega
    | none =>
      have hdeleted := deleted_perform_of_keeps (d := d) hd
      have hlength := length_handles_of_keeps hr hc hd
      omega

end Driver

namespace Device

variable {d e : Device} {kind : Call → Prop}

/-- Every operation keeps the balance. -/
theorem Confined.balances (h : d.Confined kind e) (hr : d.driver.objects.Regular) :
    d.driver.Balances e.driver := by
  have hboth : e.driver.objects.Regular ∧ d.driver.Balances e.driver := by
    refine h.keeps (P := fun v => v.objects.Regular ∧ d.driver.Balances v)
      (fun c _ v hv => ?_) (fun _ _ hv => hv) ⟨hr, rfl⟩
    exact ⟨(v.edits_perform c).regular hv.1, hv.2.trans (Driver.balances_perform hv.1 c)⟩
  exact hboth.2

theorem Confined.created_eq (h : d.Confined (fun c => c.creates? = none) e) :
    e.driver.statistics.created = d.driver.statistics.created :=
  h.keeps (P := fun v => v.statistics.created = d.driver.statistics.created)
    (fun c hc v hv => by
      rw [v.created_perform, hc, hv]
      rfl)
    (fun _ _ hv => hv) rfl

theorem Confined.deleted_eq (h : d.Confined (fun c => c.deletes? = none) e) :
    e.driver.statistics.deleted = d.driver.statistics.deleted :=
  h.keeps (P := fun v => v.statistics.deleted = d.driver.statistics.deleted)
    (fun _ hc _ hv => (Driver.deleted_perform_of_keeps hc).trans hv) (fun _ _ hv => hv) rfl

/-- Deletions are counted as far as there was something to delete. -/
theorem Drops.counts {gone : List Handle} (h : d.Drops e gone) (hr : d.driver.objects.Regular)
    (hc : d.Confined (fun c => c.creates? = none) e) :
    e.driver.statistics.created = d.driver.statistics.created ∧
      e.driver.statistics.deleted =
        d.driver.statistics.deleted + (d.driver.objects.handles.filter (· ∈ gone)).length := by
  have hcreated := hc.created_eq
  have hbalance := hc.balances hr
  have hperm : e.driver.objects.handles.Perm
      (d.driver.objects.handles.filter fun x => !decide (x ∈ gone)) := by
    refine (h.edits.regular hr).handles_perm (hr.nodup_handles.filter _) fun x => ?_
    rw [List.mem_filter, Objects.mem_handles_iff, Bool.not_eq_true', decide_eq_false_iff_not]
    exact h.live x
  have hparts := d.driver.objects.handles.length_eq_length_filter_add (· ∈ gone)
  unfold Driver.Balances at hbalance
  rw [hperm.length_eq] at hbalance
  refine ⟨hcreated, ?_⟩
  omega

/-- What came to be there without a deletion was made. -/
theorem Grows.counts {new : List Handle} (h : d.Grows e new) (hr : d.driver.objects.Regular)
    (hc : d.Confined (fun c => c.deletes? = none) e) :
    e.driver.statistics.created = d.driver.statistics.created + new.length ∧
      e.driver.statistics.deleted = d.driver.statistics.deleted := by
  have hdeleted := hc.deleted_eq
  have hbalance := hc.balances hr
  have hdisjoint : ∀ x ∈ new, x ∉ d.driver.objects.handles := by
    intro x hx hold
    have hlt := h.fresh x hx
    have hle := hr.name_le x ((Objects.mem_handles_iff _ _).mp hold)
    omega
  have hperm : e.driver.objects.handles.Perm (new ++ d.driver.objects.handles) := by
    refine (h.regular hr).handles_perm
      (List.nodup_append'.mpr ⟨h.nodup, hr.nodup_handles, hdisjoint⟩) fun x => ?_
    rw [List.mem_append, Objects.mem_handles_iff, or_comm]
    exact h.live x
  unfold Driver.Balances at hbalance
  rw [hperm.length_eq, List.length_append] at hbalance
  refine ⟨?_, hdeleted⟩
  omega

end Device

/-! ## Names -/

namespace Objects

/-- Objects of one name are one object. -/
def IsNamed (o : Objects) : Prop := ∀ x y, o.Live x → o.Live y → x.name = y.name → x = y

theorem isNamed_emptyAfter (issued : Nat) : (emptyAfter issued).IsNamed :=
  fun x _ hx => absurd hx (not_live_emptyAfter issued x)

theorem Edits.isNamed {o p : Objects} (h : o.Edits p) (hr : o.Regular) (hn : o.IsNamed) :
    p.IsNamed := by
  induction h with
  | refl => exact hn
  | @issue p k v hedits ih =>
    -- the new name is the greatest
    have hlive (x : Handle) (hx : (p.issue k v).Live x) :
        x = ⟨k, p.issued + 1⟩ ∨ p.Live x ∧ x.name ≤ p.issued := by
      rw [Live, stored?_issue] at hx
      split at hx
      · exact Or.inl ‹_›
      · exact Or.inr ⟨hx, (hedits.regular hr).name_le x hx⟩
    intro x y hx hy hxy
    rcases hlive x hx with rfl | ⟨hx, hxn⟩ <;> rcases hlive y hy with rfl | ⟨hy, hyn⟩
    · rfl
    · dsimp only at hxy
      omega
    · dsimp only at hxy
      omega
    · exact ih x y hx hy hxy
  | erase id _ ih => exact fun x y hx hy => ih x y (live_of_erase hx) (live_of_erase hy)
  | modify id f _ ih => exact fun x y hx hy => ih x y (live_of_modify hx) (live_of_modify hy)

theorem names_eq (o : Objects) : o.names = o.handles.map (·.name) := by
  simp [names, handles, Kind.all, table, Function.comp_def]

theorem length_handles (o : Objects) : o.handles.length = o.count := by
  rw [← length_names, names_eq, List.length_map]

/-- No two objects have one name. -/
theorem IsNamed.nodup_names {o : Objects} (hn : o.IsNamed) (hr : o.Regular) : o.names.Nodup := by
  rw [names_eq]
  refine hr.nodup_handles.map_on fun x hx y hy => ?_
  rw [mem_handles_iff] at hx hy
  exact hn x y hx hy

end Objects

theorem Device.Reachable.isNamed {d : Device} (h : d.Reachable) : d.driver.objects.IsNamed := by
  induction h with
  | create profile => exact Objects.isNamed_emptyAfter 0
  | perform c hd ih => exact (Driver.edits_perform _ c).isNamed hd.regular ih
  | attempt what hd ih => exact (edits_attempt _ what).isNamed hd.regular ih
  | compile id source hd ih => exact (edits_compile _ id source).isNamed hd.regular ih
  | setFaults _ _ ih => exact ih
  | setPretence _ _ ih => exact ih
  | freshContext _ ih => exact ih
  | loseContext _ _ => exact Objects.isNamed_emptyAfter _

end Compositor
