import Compositor.Driver.Interface

/-!
# Object tables

A table holds the live objects of one kind under their names. It is seen through `get?`: each
operation has one lemma that says what it does to a look-up.
-/

namespace Compositor

/-- The live objects of a kind, each under its name. -/
structure Table (k : Kind) (α : Type) where
  /-- Names with their objects, the latest first. -/
  entries : List (ObjectId k × α)

namespace Table

variable {k : Kind} {α : Type}

def empty : Table k α := ⟨[]⟩

instance : EmptyCollection (Table k α) where
  emptyCollection := empty

instance : Inhabited (Table k α) where
  default := empty

/-- The object with the given name. -/
def get? (t : Table k α) (id : ObjectId k) : Option α := find t.entries
where
  /-- The first object under the name. -/
  find : List (ObjectId k × α) → Option α
    | [] => none
    | (key, v) :: rest => if key = id then some v else find rest

/-- Whether an object has the given name. -/
def contains (t : Table k α) (id : ObjectId k) : Bool := (t.get? id).isSome

def size (t : Table k α) : Nat := t.entries.length

def ids (t : Table k α) : List (ObjectId k) := t.entries.map (·.1)

/-- Takes the object with the given name out. -/
def erase (t : Table k α) (id : ObjectId k) : Table k α :=
  ⟨t.entries.filter fun e => e.1 ≠ id⟩

/-- Puts an object under a name. -/
def insert (t : Table k α) (id : ObjectId k) (v : α) : Table k α :=
  ⟨(id, v) :: (t.erase id).entries⟩

/-- Changes the object with the given name, if there is one. -/
def modify (t : Table k α) (id : ObjectId k) (f : α → α) : Table k α :=
  ⟨t.entries.map fun e => if e.1 = id then (e.1, f e.2) else e⟩

@[simp] theorem get?_empty (id : ObjectId k) : (∅ : Table k α).get? id = none := rfl

@[simp] theorem size_empty : (∅ : Table k α).size = 0 := rfl

theorem get?_erase (t : Table k α) (id other : ObjectId k) :
    (t.erase id).get? other = if other = id then none else t.get? other := by
  obtain ⟨entries⟩ := t
  simp only [erase, get?]
  induction entries with
  | nil => simp [get?.find]
  | cons e rest ih =>
    obtain ⟨key, v⟩ := e
    by_cases hk : key = id
    · subst hk
      by_cases ho : other = key
      · simpa [ho] using ih
      · simpa [get?.find, ho, Ne.symm ho] using ih
    · by_cases hc : key = other
      · subst hc
        simp [get?.find, hk]
      · simpa [get?.find, hk, hc] using ih

theorem get?_insert (t : Table k α) (id other : ObjectId k) (v : α) :
    (t.insert id v).get? other = if other = id then some v else t.get? other := by
  have he := get?_erase t id other
  simp only [get?] at he
  by_cases h : other = id
  · simp [insert, get?, get?.find, h]
  · simpa [insert, get?, get?.find, h, Ne.symm h] using he

theorem get?_modify (t : Table k α) (id other : ObjectId k) (f : α → α) :
    (t.modify id f).get? other = if other = id then (t.get? other).map f else t.get? other := by
  obtain ⟨entries⟩ := t
  simp only [modify, get?]
  induction entries with
  | nil => simp [get?.find]
  | cons e rest ih =>
    obtain ⟨key, v⟩ := e
    by_cases hk : key = id
    · subst hk
      by_cases ho : other = key
      · simp [get?.find, ho]
      · simpa [get?.find, ho, Ne.symm ho] using ih
    · by_cases hc : key = other
      · subst hc
        simp [get?.find, hk]
      · simpa [get?.find, hk, hc] using ih

@[simp] theorem ids_modify (t : Table k α) (id : ObjectId k) (f : α → α) :
    (t.modify id f).ids = t.ids := by
  simp only [ids, modify, List.map_map]
  apply List.map_congr_left
  intro e _
  simp only [Function.comp]
  split <;> rfl

theorem ids_erase (t : Table k α) (id : ObjectId k) : (t.erase id).ids = t.ids.filter (· ≠ id) := by
  simp [ids, erase, List.filter_map, Function.comp_def]

/-- There is nothing to take out under a name that no object has. -/
theorem erase_eq_self {t : Table k α} {id : ObjectId k} (h : id ∉ t.ids) : t.erase id = t := by
  have hkept : t.entries.filter (fun e => e.1 ≠ id) = t.entries := by
    rw [List.filter_eq_self]
    intro e he
    rw [decide_eq_true_iff]
    rintro rfl
    exact h (List.mem_map_of_mem he)
  rw [erase, hkept]

theorem ids_insert (t : Table k α) (id : ObjectId k) (v : α) :
    (t.insert id v).ids = id :: t.ids.filter (· ≠ id) := by
  rw [← ids_erase]
  rfl

@[simp] theorem size_modify (t : Table k α) (id : ObjectId k) (f : α → α) :
    (t.modify id f).size = t.size := by
  simp [size, modify]

theorem mem_ids_iff (t : Table k α) (id : ObjectId k) : id ∈ t.ids ↔ t.contains id = true := by
  obtain ⟨entries⟩ := t
  simp only [ids, contains, get?]
  induction entries with
  | nil => simp [get?.find]
  | cons e rest ih =>
    obtain ⟨key, v⟩ := e
    by_cases hc : key = id
    · simp [get?.find, hc]
    · simpa [get?.find, hc, Ne.symm hc] using ih

end Table

end Compositor
