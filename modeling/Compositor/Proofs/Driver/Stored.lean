import Compositor.Driver.Call
import Mathlib.Data.List.Nodup
import Mathlib.Tactic.ByContra

/-!
# Objects by handle

The five tables of a driver seen as one: a `Handle` is a name with its kind, and `Objects.stored?`
is what the driver keeps under it. Putting in, taking out and changing an object have one lemma each
for all kinds, and every driver call that makes, changes or deletes objects has one that says what
it does to each handle.

`Objects.Regular` is what holds of the objects of every driver: no handle is listed twice, and no
name is beyond those that were handed out.
-/

namespace Compositor

/-- The name of an object with its kind. -/
structure Handle where
  kind : Kind
  name : Nat
deriving DecidableEq, Repr

/-- A name as a handle. -/
def ObjectId.handle {k : Kind} (id : ObjectId k) : Handle := ⟨k, id.name⟩

@[simp] theorem ObjectId.handle_inj {k : Kind} {a b : ObjectId k} :
    a.handle = b.handle ↔ a = b := by
  simp [handle, ObjectId.ext_iff]

@[simp] theorem ObjectId.handle_name {k : Kind} (a : ObjectId k) : a.handle.name = a.name := rfl

theorem ObjectId.handle_ne {k l : Kind} (a : ObjectId k) (b : ObjectId l) (h : k ≠ l) :
    a.handle ≠ b.handle :=
  fun he => h (congrArg Handle.kind he)

/-- All kinds. -/
def Kind.all : List Kind := [texture, framebuffer, renderbuffer, shader, program]

theorem Kind.mem_all (k : Kind) : k ∈ all := by
  cases k <;> decide

/-- The type of the objects of a kind. -/
@[reducible] def Kind.Object : Kind → Type
  | texture => Texture
  | framebuffer => Framebuffer
  | renderbuffer => Renderbuffer
  | shader => Shader
  | program => Program

/-- What a driver keeps of an object. -/
inductive Stored where
  | texture (t : Texture)
  | framebuffer (f : Framebuffer)
  | renderbuffer (r : Renderbuffer)
  | shader (s : Shader)
  | program (p : Program)
deriving DecidableEq, Repr

/-- An object of a kind among those of all kinds. -/
def Kind.store : (k : Kind) → k.Object → Stored
  | texture => .texture
  | framebuffer => .framebuffer
  | renderbuffer => .renderbuffer
  | shader => .shader
  | program => .program

theorem Kind.store_injective (k : Kind) : Function.Injective k.store := by
  intro v w h
  cases k <;> cases h <;> rfl

/-- The object that a creation makes. -/
def Creation.object : (c : Creation) → c.kind.Object
  | texture => ⟨none, .fresh⟩
  | framebuffer => ⟨none, none, none⟩
  | renderbuffer => ⟨none, .fresh⟩
  | shader stage => ⟨stage, "", false, ""⟩
  | program => .fresh

namespace Objects

/-- The table of a kind. -/
def table (o : Objects) : (k : Kind) → Table k k.Object
  | .texture => o.textures
  | .framebuffer => o.framebuffers
  | .renderbuffer => o.renderbuffers
  | .shader => o.shaders
  | .program => o.programs

/-- The objects with another table for a kind. -/
def setTable (o : Objects) : (k : Kind) → Table k k.Object → Objects
  | .texture, t => { o with textures := t }
  | .framebuffer, t => { o with framebuffers := t }
  | .renderbuffer, t => { o with renderbuffers := t }
  | .shader, t => { o with shaders := t }
  | .program, t => { o with programs := t }

/-- The object under a handle. -/
def stored? (o : Objects) (h : Handle) : Option Stored :=
  ((o.table h.kind).get? ⟨h.name⟩).map h.kind.store

/-- Whether there is an object under the handle. -/
def Live (o : Objects) (h : Handle) : Prop := o.stored? h ≠ none

instance (o : Objects) (h : Handle) : Decidable (o.Live h) :=
  inferInstanceAs (Decidable (o.stored? h ≠ none))

/-- The handles of all objects. -/
def handles (o : Objects) : List Handle :=
  Kind.all.flatMap fun k => (o.table k).ids.map (·.handle)

/-! ## Looking up -/

theorem stored?_handle (o : Objects) {k : Kind} (id : ObjectId k) :
    o.stored? id.handle = ((o.table k).get? id).map k.store := rfl

theorem stored?_texture (o : Objects) (id : TextureId) :
    o.stored? id.handle = (o.textures.get? id).map .texture := rfl

theorem stored?_framebuffer (o : Objects) (id : FramebufferId) :
    o.stored? id.handle = (o.framebuffers.get? id).map .framebuffer := rfl

theorem stored?_renderbuffer (o : Objects) (id : RenderbufferId) :
    o.stored? id.handle = (o.renderbuffers.get? id).map .renderbuffer := rfl

theorem stored?_program (o : Objects) (id : ProgramId) :
    o.stored? id.handle = (o.programs.get? id).map .program := rfl

theorem live_iff_contains (o : Objects) {k : Kind} (id : ObjectId k) :
    o.Live id.handle ↔ (o.table k).contains id = true := by
  simp [Live, stored?_handle, Table.contains, Option.isSome_iff_ne_none]

theorem mem_handles_iff (o : Objects) (h : Handle) : h ∈ o.handles ↔ o.Live h := by
  obtain ⟨k, n⟩ := h
  have hlive := live_iff_contains o (⟨n⟩ : ObjectId k)
  rw [← Table.mem_ids_iff] at hlive
  rw [show (⟨k, n⟩ : Handle) = (⟨n⟩ : ObjectId k).handle from rfl, hlive]
  simp only [handles, List.mem_flatMap, List.mem_map]
  constructor
  · rintro ⟨l, -, id, hid, he⟩
    obtain rfl : l = k := congrArg Handle.kind he
    rwa [ObjectId.handle_inj.mp he] at hid
  · intro hid
    exact ⟨k, k.mem_all, _, hid, rfl⟩

/-! ## Changing a table -/

@[simp] theorem issued_setTable (o : Objects) (k : Kind) (t : Table k k.Object) :
    (o.setTable k t).issued = o.issued := by
  cases k <;> rfl

theorem stored?_setTable (o : Objects) (k : Kind) (t : Table k k.Object) (h : Handle) :
    (o.setTable k t).stored? h =
      if h.kind = k then (t.get? ⟨h.name⟩).map k.store else o.stored? h := by
  obtain ⟨l, n⟩ := h
  cases k <;> cases l <;> rfl

theorem eq_handle_iff {k : Kind} (id : ObjectId k) (h : Handle) :
    h = id.handle ↔ h.kind = k ∧ (⟨h.name⟩ : ObjectId k) = id := by
  obtain ⟨l, n⟩ := h
  obtain ⟨m⟩ := id
  simp [ObjectId.handle]

/-- A table that differs in one place differs there alone in what is stored. -/
theorem stored?_setTable_of_get? (o : Objects) {k : Kind} {id : ObjectId k}
    {t : Table k k.Object} (v? : Option k.Object)
    (ht : ∀ other, t.get? other = if other = id then v? else (o.table k).get? other) (h : Handle) :
    (o.setTable k t).stored? h = if h = id.handle then v?.map k.store else o.stored? h := by
  rw [stored?_setTable]
  obtain ⟨l, n⟩ := h
  by_cases hk : l = k
  · subst hk
    rw [if_pos rfl, ht]
    by_cases hn : (⟨n⟩ : ObjectId l) = id
    · simp [eq_handle_iff, hn]
    · simp [eq_handle_iff, hn, stored?]
  · simp [eq_handle_iff, hk]

theorem stored?_insert (o : Objects) {k : Kind} (id : ObjectId k) (v : k.Object) (h : Handle) :
    (o.setTable k ((o.table k).insert id v)).stored? h =
      if h = id.handle then some (k.store v) else o.stored? h :=
  o.stored?_setTable_of_get? (some v) (fun other => (o.table k).get?_insert id other v) h

theorem stored?_erase (o : Objects) {k : Kind} (id : ObjectId k) (h : Handle) :
    (o.setTable k ((o.table k).erase id)).stored? h =
      if h = id.handle then none else o.stored? h :=
  o.stored?_setTable_of_get? none ((o.table k).get?_erase id) h

theorem stored?_modify (o : Objects) {k : Kind} (id : ObjectId k) (f : k.Object → k.Object)
    (h : Handle) :
    (o.setTable k ((o.table k).modify id f)).stored? h =
      if h = id.handle then ((o.table k).get? id).map fun v => k.store (f v)
      else o.stored? h := by
  have ht (other : ObjectId k) : ((o.table k).modify id f).get? other =
      if other = id then ((o.table k).get? id).map f else (o.table k).get? other := by
    rw [Table.get?_modify]
    split
    · rename_i he
      rw [he]
    · rfl
  rw [o.stored?_setTable_of_get? _ ht, Option.map_map]
  rfl

/-- The same with the change written for objects of any kind. -/
theorem stored?_modify_map (o : Objects) {k : Kind} (id : ObjectId k) {f : k.Object → k.Object}
    {g : Stored → Stored} (hg : ∀ v, g (k.store v) = k.store (f v)) (h : Handle) :
    (o.setTable k ((o.table k).modify id f)).stored? h =
      if h = id.handle then (o.stored? h).map g else o.stored? h := by
  rw [stored?_modify]
  split
  · rename_i he
    rw [he, stored?_handle, Option.map_map]
    exact Option.map_congr fun v _ => (hg v).symm
  · rfl

/-- The objects with one more, under the next name. -/
def issue (o : Objects) (k : Kind) (v : k.Object) : Objects :=
  { o with issued := o.issued + 1 }.setTable k ((o.table k).insert ⟨o.issued + 1⟩ v)

@[simp] theorem issued_issue (o : Objects) (k : Kind) (v : k.Object) :
    (o.issue k v).issued = o.issued + 1 := by
  simp [issue]

theorem stored?_issue (o : Objects) (k : Kind) (v : k.Object) (h : Handle) :
    (o.issue k v).stored? h = if h = ⟨k, o.issued + 1⟩ then some (k.store v) else o.stored? h := by
  have ht : o.table k = { o with issued := o.issued + 1 }.table k := by cases k <;> rfl
  rw [issue, ht, stored?_insert]
  rfl

/-- Changes of the objects, one object at a time: what any driver call amounts to. -/
inductive Edits (o : Objects) : Objects → Prop where
  | refl : Edits o o
  | issue {p : Objects} (k : Kind) (v : k.Object) : Edits o p → Edits o (p.issue k v)
  | erase {p : Objects} {k : Kind} (id : ObjectId k) :
    Edits o p → Edits o (p.setTable k ((p.table k).erase id))
  | modify {p : Objects} {k : Kind} (id : ObjectId k) (f : k.Object → k.Object) :
    Edits o p → Edits o (p.setTable k ((p.table k).modify id f))

theorem Edits.trans {o p q : Objects} (h : o.Edits p) (h' : p.Edits q) : o.Edits q := by
  induction h' with
  | refl => exact h
  | issue k v _ ih => exact ih.issue k v
  | erase id _ ih => exact ih.erase id
  | modify id f _ ih => exact ih.modify id f

theorem Edits.issued_le {o p : Objects} (h : o.Edits p) : o.issued ≤ p.issued := by
  induction h with
  | refl => exact Nat.le_refl _
  | issue k v _ ih =>
    rw [issued_issue]
    omega
  | erase id _ ih => simpa using ih
  | modify id f _ ih => simpa using ih

/-- What holds of the objects of every driver: no handle is listed twice, and no name is beyond
those handed out. -/
structure Regular (o : Objects) : Prop where
  nodup : ∀ k, (o.table k).ids.Nodup
  name_le : ∀ h, o.Live h → h.name ≤ o.issued

theorem not_live_emptyAfter (issued : Nat) (h : Handle) : ¬(emptyAfter issued).Live h := by
  obtain ⟨k, n⟩ := h
  cases k <;> exact fun hl => hl rfl

theorem regular_emptyAfter (issued : Nat) : (emptyAfter issued).Regular where
  nodup k := by cases k <;> exact List.nodup_nil
  name_le h hl := absurd hl (not_live_emptyAfter issued h)

/-- Nothing is kept under a name that was not handed out yet. -/
theorem Regular.stored?_eq_none {o : Objects} (hr : o.Regular) {h : Handle}
    (hn : o.issued < h.name) : o.stored? h = none := by
  by_contra hl
  exact absurd (hr.name_le h hl) (by omega)

theorem Regular.nodup_handles {o : Objects} (hr : o.Regular) : o.handles.Nodup := by
  refine List.nodup_flatMap.mpr ⟨fun k _ => ?_, ?_⟩
  · exact (hr.nodup k).map fun a b hab => ObjectId.handle_inj.mp hab
  · refine List.Nodup.pairwise_of_forall_ne (by decide) fun k _ l _ hkl => ?_
    intro h hk hl
    obtain ⟨a, -, rfl⟩ := List.mem_map.mp hk
    obtain ⟨b, -, hb⟩ := List.mem_map.mp hl
    exact hkl (congrArg Handle.kind hb).symm

/-- Where a list tells what is live, each handle once, it lists the live objects. -/
theorem Regular.handles_perm {o : Objects} (hr : o.Regular) {l : List Handle} (hn : l.Nodup)
    (hl : ∀ x, o.Live x ↔ x ∈ l) : o.handles.Perm l :=
  (List.perm_ext_iff_of_nodup hr.nodup_handles hn).mpr fun x => by rw [mem_handles_iff, hl]

theorem table_setTable_self (o : Objects) (k : Kind) (t : Table k k.Object) :
    (o.setTable k t).table k = t := by
  cases k <;> rfl

@[simp] theorem setTable_table (o : Objects) (k : Kind) : o.setTable k (o.table k) = o := by
  cases k <;> rfl

theorem table_setTable_ne (o : Objects) {k l : Kind} (t : Table k k.Object) (h : l ≠ k) :
    (o.setTable k t).table l = o.table l := by
  cases k <;> cases l <;> first | rfl | exact absurd rfl h

theorem Regular.setTable {o : Objects} (hr : o.Regular) {k : Kind} {t : Table k k.Object}
    (ht : t.ids.Nodup) (hn : ∀ h, (o.setTable k t).Live h → h.name ≤ o.issued) :
    (o.setTable k t).Regular where
  nodup l := by
    by_cases h : l = k
    · subst h
      rwa [table_setTable_self]
    · rw [table_setTable_ne o t h]
      exact hr.nodup l
  name_le h hl := by
    rw [issued_setTable]
    exact hn h hl

theorem live_of_erase {o : Objects} {k : Kind} {id : ObjectId k} {x : Handle}
    (hx : (o.setTable k ((o.table k).erase id)).Live x) : o.Live x := by
  rw [Live, stored?_erase] at hx
  split at hx
  · exact absurd rfl hx
  · exact hx

theorem live_of_modify {o : Objects} {k : Kind} {id : ObjectId k} {f : k.Object → k.Object}
    {x : Handle} (hx : (o.setTable k ((o.table k).modify id f)).Live x) : o.Live x := by
  rw [Live, stored?_modify] at hx
  split at hx
  · rename_i he
    subst he
    intro hn
    rw [stored?_handle, Option.map_eq_none_iff] at hn
    exact hx (by rw [hn]; rfl)
  · exact hx

theorem Edits.regular {o p : Objects} (h : o.Edits p) (hr : o.Regular) : p.Regular := by
  induction h with
  | refl => exact hr
  | @issue p k v _ ih =>
    have hs := stored?_issue p k v
    -- the new name is the greatest
    refine ⟨fun l => ?_, fun x hx => ?_⟩
    · by_cases hl : l = k
      · subst hl
        rw [Objects.issue, table_setTable_self, Table.ids_insert]
        exact ((ih.nodup l).filter _).cons (by simp)
      · rw [Objects.issue, table_setTable_ne _ _ hl]
        exact ih.nodup l
    · rw [issued_issue]
      by_cases hxe : x = ⟨k, p.issued + 1⟩
      · simp [hxe]
      · have := ih.name_le x (by rwa [Live, hs, if_neg hxe] at hx)
        omega
  | @erase p k id _ ih =>
    refine ih.setTable ?_ fun x hx => ih.name_le x (live_of_erase hx)
    rw [Table.ids_erase]
    exact (ih.nodup k).filter _
  | @modify p k id f _ ih =>
    refine ih.setTable ?_ fun x hx => ih.name_le x (live_of_modify hx)
    rw [Table.ids_modify]
    exact ih.nodup k

/-- No object comes to life under a name that was handed out before. -/
theorem Edits.live_of_live {o p : Objects} (h : o.Edits p) {x : Handle} (hx : p.Live x)
    (hn : x.name ≤ o.issued) : o.Live x := by
  induction h with
  | refl => exact hx
  | @issue p k v hedits ih =>
    rw [Live, stored?_issue] at hx
    split at hx
    · rename_i he
      have hle : o.issued ≤ p.issued := hedits.issued_le
      rw [he] at hn
      dsimp only at hn
      omega
    · exact ih hx
  | erase id _ ih => exact ih (live_of_erase hx)
  | modify id f _ ih => exact ih (live_of_modify hx)

end Objects

end Compositor
