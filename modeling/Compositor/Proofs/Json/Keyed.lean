import Compositor.Proofs.Json.Members
import Mathlib.Data.List.ReduceOption
import Mathlib.Data.List.Sigma

/-!
# Records by their keys

Where the fields of a record are told apart by keys, an object may give any of them in any order,
and members that nobody asked for stand among them. What the record gets under a key is what is
given under it, and neither the order nor the other members have a say in that.
-/

namespace Compositor.Json.Form

variable {δ α κ : Type} {form : Form δ α}

/-- The fields of a form, told apart by keys. -/
structure Keyed (form : Form δ α) (κ : Type) where
  /-- What may be given under a key. -/
  Value : κ → Type
  name : κ → String
  /-- What a draft has under a key. -/
  get : δ → (key : κ) → Option (Value key)
  set : δ → (key : κ) → Value key → δ
  read : (key : κ) → Reader (Value key)
  /-- The texts for a value. -/
  IsText : (key : κ) → Value key → List Char → Prop
  find_name : ∀ key, form.fields.find? (·.name == name key) =
    some (.of (name key) (get · key) (set · key) (read key))
  find_other : ∀ s, (∀ key, name key ≠ s) → form.fields.find? (·.name == s) = none
  get_blank : ∀ key, get form.blank key = none
  get_set : ∀ draft key v, get (set draft key v) key = some v
  get_set_ne : ∀ draft key v other, key ≠ other → get (set draft key v) other = get draft other
  passesSpace : ∀ key, PassesSpace (read key)
  takes : ∀ key v s, IsText key v s → Takes (read key) s v

namespace Keyed

variable (keyed : form.Keyed κ)

/-- What stands in an object: a field with its value, or a member of another name. -/
abbrev Entry := Option (Sigma keyed.Value)

/-- The name and the text of a member. -/
def Writes : keyed.Entry → String → List Char → Prop
  | some field, name, s => name = keyed.name field.1 ∧ keyed.IsText field.1 field.2 s
  | none, name, s => (∀ key, keyed.name key ≠ name) ∧ IsValue s

/-- An object that gives the fields in some order, with other members anywhere. -/
def IsObject (given : List (Sigma keyed.Value)) (s : List Char) : Prop :=
  ∃ entries : List keyed.Entry,
    entries.reduceOption.Perm given ∧ IsObjectOf keyed.Writes entries s

/-- The draft after a member. -/
def put (draft : δ) : keyed.Entry → δ
  | some field => keyed.set draft field.1 field.2
  | none => draft

variable {keyed} {draft : δ} {entries : List keyed.Entry} {given : List (Sigma keyed.Value)}

/-- A field that the draft does not have is put into it, and any other member changes nothing. -/
theorem accepts_put {entry : keyed.Entry}
    (h : ∀ field ∈ entry, keyed.get draft field.1 = none) :
    form.Accepts keyed.Writes draft entry (keyed.put draft entry) := by
  intro name text hwrites between after rest hbetween hafter hrest
  cases entry with
  | none =>
    obtain ⟨hother, hvalue⟩ := hwrites
    exact readMember_of_other (keyed.find_other name hother) hvalue hbetween hafter hrest
  | some field =>
    obtain ⟨rfl, htext⟩ := hwrites
    have hgiven : (keyed.get draft field.1).isSome = false := by
      rw [h field rfl]
      rfl
    exact readMember_of_field (keyed.find_name field.1) hgiven
      ((keyed.passesSpace field.1).map _) ((keyed.takes _ _ _ htext).map _) hbetween hafter hrest

/-- Members fill the draft if none of them gives what the draft has already or another one
gives. -/
theorem fills_foldl (hkeys : entries.reduceOption.NodupKeys)
    (hfresh : ∀ key ∈ entries.reduceOption.keys, keyed.get draft key = none) :
    form.Fills keyed.Writes draft entries (entries.foldl keyed.put draft) := by
  induction entries generalizing draft with
  | nil => exact .nil
  | cons entry entries ih =>
    rw [List.foldl_cons]
    cases entry with
    | none => exact .cons (accepts_put nofun) (ih hkeys hfresh)
    | some field =>
      rw [List.reduceOption_cons_of_some] at hkeys hfresh
      obtain ⟨hnot, hkeys⟩ := List.nodupKeys_cons.mp hkeys
      rw [List.keys_cons] at hfresh
      obtain ⟨hfield, hfresh⟩ := List.forall_mem_cons.mp hfresh
      refine .cons (accepts_put ?_) (ih hkeys fun key hkey => ?_)
      · intro other hother
        cases hother
        exact hfield
      · have hne : field.1 ≠ key := fun he => hnot (he ▸ hkey)
        exact (keyed.get_set_ne draft field.1 field.2 key hne).trans (hfresh key hkey)

variable [DecidableEq κ]

/-- What the draft has under a key when the members are read. -/
theorem get_foldl (hkeys : entries.reduceOption.NodupKeys) (key : κ) :
    keyed.get (entries.foldl keyed.put draft) key =
      (entries.reduceOption.dlookup key).or (keyed.get draft key) := by
  induction entries generalizing draft with
  | nil => rfl
  | cons entry entries ih =>
    rw [List.foldl_cons]
    cases entry with
    | none => exact ih hkeys
    | some field =>
      obtain ⟨given, v⟩ := field
      rw [List.reduceOption_cons_of_some] at hkeys ⊢
      obtain ⟨hnot, hkeys⟩ := List.nodupKeys_cons.mp hkeys
      rw [ih hkeys]
      by_cases he : given = key
      · subst he
        rw [List.dlookup_cons_eq, List.dlookup_eq_none.mpr hnot, Option.none_or, Option.some_or]
        exact keyed.get_set draft given v
      · rw [List.dlookup_cons_ne entries.reduceOption ⟨given, v⟩ (Ne.symm he)]
        exact congrArg _ (keyed.get_set_ne draft given v key he)

/-- An object is taken for the record of what it gives under each key. -/
theorem takes_of_isObject {s : List Char} (hkeys : given.NodupKeys) (h : keyed.IsObject given s) :
    ∃ draft, (∀ key, keyed.get draft key = given.dlookup key) ∧
      ∀ v, form.finish draft = .ok v → Takes form.read s v := by
  obtain ⟨entries, hperm, hobject⟩ := h
  have hentries : entries.reduceOption.NodupKeys := (List.perm_nodupKeys hperm).mpr hkeys
  refine ⟨entries.foldl keyed.put form.blank, fun key => ?_, fun v hv => ?_⟩
  · rw [get_foldl hentries, keyed.get_blank, Option.or_none, List.perm_dlookup key hentries hperm]
  · exact takes_read (fills_foldl hentries fun key _ => keyed.get_blank key) hobject hv

end Keyed

end Compositor.Json.Form
