import Compositor.Proofs.Device.Growth
import Compositor.Proofs.Driver.Alteration

/-!
# Inventories

While an operation makes objects, its inventory lists them with what the driver keeps of each.
`Adds base d a` says that the device `d` holds the objects of `base` and those of the inventory `a`.
The operation goes on by creations and calls that alter objects of the inventory; when it deletes
them all, the objects of `base` are left as they were.
-/

namespace Compositor

/-- Objects with their handles, the latest first. -/
abbrev Inventory := List (Handle × Stored)

namespace Inventory

/-- Changes the object under a handle. -/
def alter (a : Inventory) (x : Handle) (f : Stored → Stored) : Inventory :=
  a.map fun e => if e.1 = x then (e.1, f e.2) else e

/-- The handles of the objects. -/
def handles (a : Inventory) : List Handle := a.map (·.1)

@[simp] theorem handles_nil : handles [] = [] := rfl

@[simp] theorem handles_cons (e : Handle × Stored) (a : Inventory) :
    handles (e :: a) = e.1 :: handles a := rfl

@[simp] theorem handles_alter (a : Inventory) (x : Handle) (f : Stored → Stored) :
    (a.alter x f).handles = a.handles := by
  unfold alter handles
  rw [List.map_map]
  refine List.map_congr_left fun e _ => ?_
  simp only [Function.comp]
  split <;> rfl

@[simp] theorem length_alter (a : Inventory) (x : Handle) (f : Stored → Stored) :
    (a.alter x f).length = a.length := by
  simp [alter]

theorem alter_cons_self (x : Handle) (s : Stored) (a : Inventory) (f : Stored → Stored) :
    alter ((x, s) :: a) x f = (x, f s) :: alter a x f := by
  simp [alter]

theorem alter_cons_ne {x y : Handle} (h : y ≠ x) (s : Stored) (a : Inventory)
    (f : Stored → Stored) : alter ((y, s) :: a) x f = (y, s) :: alter a x f := by
  simp [alter, h]

theorem alter_alter (a : Inventory) (x : Handle) (f g : Stored → Stored) :
    (a.alter x f).alter x g = a.alter x (g ∘ f) := by
  unfold alter
  rw [List.map_map]
  refine List.map_congr_left fun e _ => ?_
  by_cases he : e.1 = x <;> simp [he]

theorem alter_eq_self {a : Inventory} {x : Handle} (h : x ∉ a.handles) (f : Stored → Stored) :
    a.alter x f = a := by
  induction a with
  | nil => rfl
  | cons e a ih =>
    obtain ⟨y, s⟩ := e
    obtain ⟨hy, ha⟩ := List.ne_and_not_mem_of_not_mem_cons h
    rw [alter_cons_ne (Ne.symm hy), ih ha]

theorem lookup_cons (x y : Handle) (s : Stored) (a : Inventory) :
    List.lookup x ((y, s) :: a) = if x = y then some s else a.lookup x := by
  rw [List.lookup_cons]
  by_cases h : x = y
  · rw [if_pos h, beq_iff_eq.mpr h]
  · rw [if_neg h, beq_eq_false_iff_ne.mpr h]

theorem lookup_alter (a : Inventory) (x y : Handle) (f : Stored → Stored) :
    (a.alter x f).lookup y = if y = x then (a.lookup y).map f else a.lookup y := by
  induction a with
  | nil => simp [alter]
  | cons e a ih =>
    obtain ⟨z, s⟩ := e
    by_cases hz : z = x
    · subst hz
      rw [alter_cons_self, lookup_cons, lookup_cons, ih]
      by_cases hy : y = z <;> simp [hy]
    · rw [alter_cons_ne hz, lookup_cons, lookup_cons, ih]
      by_cases hy : y = z
      · subst hy
        simp [hz]
      · simp [hy]

theorem lookup_eq_none_iff {a : Inventory} {x : Handle} : a.lookup x = none ↔ x ∉ a.handles := by
  rw [List.lookup_eq_none_iff, handles, List.mem_map]
  simp only [bne_iff_ne, ne_eq, not_exists, not_and]
  exact ⟨fun h e he hx => h e he hx.symm, fun h e he hx => h e he hx.symm⟩

/-- In an inventory that lists no handle twice, every entry is found. -/
theorem lookup_of_mem {a : Inventory} (hn : a.handles.Nodup) {x : Handle} {s : Stored}
    (h : (x, s) ∈ a) : a.lookup x = some s := by
  induction a with
  | nil => cases h
  | cons e a ih =>
    obtain ⟨y, t⟩ := e
    rw [handles_cons, List.nodup_cons] at hn
    rw [lookup_cons]
    rcases List.mem_cons.mp h with he | ha
    · cases he
      exact if_pos rfl
    · have hx : x ≠ y := fun he => hn.1 (he ▸ List.mem_map_of_mem (f := (·.1)) ha)
      rw [if_neg hx]
      exact ih hn.2 ha

end Inventory

namespace Device

/-- A call that changes an object which came in meanwhile goes on growing. -/
theorem Grows.perform {d e : Device} {new : List Handle} (h : d.Grows e new) {c : Call}
    (hc : c.creates? = none) (hd : c.deletes? = none)
    (ht : ∀ x, e.driver.target? c = some x → x ∈ new) : d.Grows (e.perform c) new where
  outline x hx := by
    rw [← h.outline x hx]
    refine Driver.outline?_perform fun he => ?_
    -- the target has a later name than `x`
    have := h.fresh x (ht x he)
    omega
  live x := by
    rw [← h.live]
    exact e.driver.live_perform_of_keeps hc hd x
  fresh := h.fresh
  nodup := h.nodup
  edits := h.edits.trans (e.driver.edits_perform c)
  host := h.host.trans (e.sameHost_perform c)
  orderly := h.orderly.perform (by rw [hd]; exact nofun)

/-- The device `d` holds the objects of `base` as they were and those of the inventory. -/
structure Adds (base d : Device) (a : Inventory) : Prop where
  stored : ∀ x, d.driver.objects.stored? x = (a.lookup x).or (base.driver.objects.stored? x)
  grows : base.Grows d a.handles

namespace Adds

variable {base d e : Device} {a : Inventory}

theorem refl (d : Device) : d.Adds d [] := ⟨fun _ => rfl, .refl d⟩

theorem of_mem (h : base.Adds d a) {x : Handle} {s : Stored} (hx : (x, s) ∈ a) :
    d.driver.objects.stored? x = some s := by
  rw [h.stored, Inventory.lookup_of_mem h.grows.nodup hx]
  rfl

theorem get?_of_mem (h : base.Adds d a) {k : Kind} {id : ObjectId k} {v : k.Object}
    (hx : (id.handle, k.store v) ∈ a) : (d.driver.objects.table k).get? id = some v := by
  have hs := h.of_mem hx
  rw [Objects.stored?_handle, Option.map_eq_some_iff] at hs
  obtain ⟨w, hw, he⟩ := hs
  rwa [← k.store_injective he]

theorem of_not_mem (h : base.Adds d a) {x : Handle} (hx : x ∉ a.handles) :
    d.driver.objects.stored? x = base.driver.objects.stored? x := by
  rw [h.stored, Inventory.lookup_eq_none_iff.mpr hx]
  rfl

/-- What was live before is as it was. -/
theorem stored_of_live (h : base.Adds d a) (hr : base.driver.objects.Regular) {x : Handle}
    (hx : base.Live x) : d.driver.objects.stored? x = base.driver.objects.stored? x := by
  refine h.of_not_mem fun hm => ?_
  have hlt := h.grows.fresh x hm
  have hle := hr.name_le x hx
  omega

theorem trans {b : Inventory} (h : base.Adds d a) (h' : d.Adds e b)
    (hr : base.driver.objects.Regular) : base.Adds e (b ++ a) where
  stored x := by
    rw [h'.stored, h.stored, List.lookup_append, Option.or_assoc]
  grows := by
    rw [Inventory.handles, List.map_append]
    exact h.grows.trans h'.grows hr

/-- A creation adds an object to the inventory. -/
theorem attempt (h : base.Adds d a) (hr : base.driver.objects.Regular) {what : Creation}
    {name : Nat} (ha : d.attempt what = (.ok name, e)) :
    base.Adds e ((⟨what.kind, name⟩, what.kind.store what.object) :: a) where
  stored x := by
    obtain ⟨rfl, hd, -⟩ := attempt_ok ha
    rw [hd, Driver.stored?_perform_create, Inventory.lookup_cons, h.stored]
    by_cases hx : x = ⟨what.kind, d.driver.objects.issued + 1⟩ <;> simp [hx]
  grows := h.grows.trans (grows_attempt ha) hr

theorem refused (h : base.Adds d a) (hr : base.driver.objects.Regular) {what : Creation}
    {failure : Failure} (ha : d.attempt what = (.error failure, e)) : base.Adds e a where
  stored x := by
    obtain ⟨-, -, hd, -⟩ := attempt_error ha
    rw [hd, h.stored]
  grows := h.grows.trans (grows_refused ha) hr

/-- An alteration of an object of the inventory, seen in the inventory. -/
theorem stored_alter (h : base.Adds d a) {x : Handle} (hx : x ∈ a.handles) (f : Stored → Stored)
    (y : Handle) :
    (if y = x then (d.driver.objects.stored? y).map f else d.driver.objects.stored? y) =
      ((a.alter x f).lookup y).or (base.driver.objects.stored? y) := by
  rw [Inventory.lookup_alter, h.stored]
  split
  · rename_i hy
    subst hy
    obtain ⟨s, hs⟩ := Option.ne_none_iff_exists'.mp
      (fun hn => Inventory.lookup_eq_none_iff.mp hn hx)
    rw [hs]
    rfl
  · rfl

/-- A call that alters an object of the inventory. -/
theorem alter (h : base.Adds d a) {c : Call} {x : Handle} {f : Stored → Stored}
    (hc : d.driver.Alters c x f) (hx : x ∈ a.handles) : base.Adds (d.perform c) (a.alter x f) where
  stored y := (hc.stored y).trans (h.stored_alter hx f y)
  grows := by
    rw [Inventory.handles_alter]
    refine h.grows.perform hc.creates hc.deletes fun y hy => ?_
    rw [hc.target] at hy
    cases hy
    exact hx

/-- A call that changes no object. -/
theorem perform (h : base.Adds d a) {c : Call} (hq : c.isQuiet = true) (hp : c.paints = false)
    (hu : c.setsUniform = false) : base.Adds (d.perform c) a where
  stored x := by
    rw [driver_perform, Driver.stored?_perform hp hu, h.stored]
    rw [Driver.target?_of_isQuiet _ hq]
    exact nofun
  grows := by
    refine h.grows.perform (Call.creates?_of_isQuiet hq) (Call.deletes?_of_isQuiet hq) ?_
    rw [Driver.target?_of_isQuiet _ hq]
    exact nofun

/-- When all objects of the inventory are deleted, what was there before is as it was. -/
theorem delete (h : base.Adds d a) (hr : base.driver.objects.Regular) {calls : List Call}
    {gone : List Handle} (hc : calls.map Call.deletes? = gone.map some)
    (hg : gone.Perm a.handles) : base.Adds (d.performAll calls) [] := by
  have hdrop := d.drops_performAll hc
  have hfresh (x : Handle) (hx : x ∈ a.handles) : base.driver.objects.stored? x = none :=
    hr.stored?_eq_none (h.grows.fresh x hx)
  have hstored (x : Handle) : (d.performAll calls).driver.objects.stored? x =
      base.driver.objects.stored? x := by
    rw [hdrop.stored]
    split
    · rename_i hx
      exact (hfresh x (hg.mem_iff.mp hx)).symm
    · rename_i hx
      exact h.of_not_mem fun hm => hx (hg.mem_iff.mpr hm)
  refine ⟨hstored, fun x _ => Objects.outline?_congr (hstored x), fun x => ?_, nofun,
    List.nodup_nil, h.grows.edits.trans hdrop.edits, h.grows.host.trans hdrop.host, ?_⟩
  · rw [Live, Objects.Live, hstored, Inventory.handles_nil, List.mem_nil_iff, or_false]
    rfl
  · refine h.grows.orderly.trans (d.orderly_deletions hc (hg.nodup_iff.mpr h.grows.nodup) ?_)
    intro x hx
    exact (h.grows.live x).mpr (Or.inr (hg.mem_iff.mp hx))

end Adds

end Device

end Compositor
