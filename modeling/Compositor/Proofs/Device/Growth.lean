import Compositor.Device
import Compositor.Proofs.Driver.Effect

/-!
# Growing and shrinking devices

What an operation does to the objects of a device, at three levels of detail.

* `Orderly d e`: the device went from `d` to `e` by calls, creations and compilations, and each
  deletion among them named an object that was live at that moment.
* `Grows d e new`: so did it, the objects that were there keep their outlines, and `new` are the
  handles of those that are there in addition.
* `Drops d e gone`: the objects under `gone` were deleted, and all others are as they were.
-/

namespace Compositor

namespace Device

/-- Whether the driver has an object under the handle. -/
def Live (d : Device) (h : Handle) : Prop := d.driver.objects.Live h

instance (d : Device) (h : Handle) : Decidable (d.Live h) :=
  inferInstanceAs (Decidable (d.driver.objects.Live h))

/-! ## Calls in a row -/

@[simp] theorem driver_perform (d : Device) (c : Call) :
    (d.perform c).driver = d.driver.perform c := rfl

@[simp] theorem performAll_nil (d : Device) : d.performAll [] = d := rfl

@[simp] theorem performAll_cons (d : Device) (c : Call) (calls : List Call) :
    d.performAll (c :: calls) = (d.perform c).performAll calls := rfl

theorem performAll_append (d : Device) (calls more : List Call) :
    d.performAll (calls ++ more) = (d.performAll calls).performAll more := by
  simp [performAll]

/-- What every call of a row keeps, the row keeps. -/
theorem performAll_induct {P : Driver → Prop} {calls : List Call}
    (step : ∀ c ∈ calls, ∀ v, P v → P (v.perform c)) {d : Device} (h : P d.driver) :
    P (d.performAll calls).driver := by
  induction calls generalizing d with
  | nil => exact h
  | cons c calls ih =>
    rw [performAll_cons]
    exact ih (fun c' hc' => step c' (List.mem_cons_of_mem _ hc'))
      (step c List.mem_cons_self _ h)

theorem pipeline_performAll (d : Device) {calls : List Call}
    (h : ∀ c ∈ calls, c.setsPipeline = false) :
    (d.performAll calls).driver.pipeline = d.driver.pipeline :=
  performAll_induct (P := fun v => v.pipeline = d.driver.pipeline)
    (fun c hc v hv => (v.pipeline_perform (h c hc)).trans hv) rfl

theorem bindings_performAll (d : Device) (calls : List Call) :
    (d.performAll calls).driver.bindings =
      calls.foldl (fun b c => c.rebind b) d.driver.bindings := by
  induction calls generalizing d with
  | nil => rfl
  | cons c calls ih =>
    have hc : (d.perform c).driver.bindings = c.rebind d.driver.bindings :=
      d.driver.bindings_perform_eq c
    rw [performAll_cons, ih, hc, List.foldl_cons]

/-- Calls that make no object hand out no name. -/
theorem issued_performAll (d : Device) {calls : List Call}
    (h : ∀ c ∈ calls, c.creates? = none) :
    (d.performAll calls).driver.objects.issued = d.driver.objects.issued :=
  performAll_induct (P := fun v => v.objects.issued = d.driver.objects.issued)
    (fun c hc v hv => (v.issued_perform (h c hc)).trans hv) rfl

/-- What no call can change. -/
structure SameHost (d e : Device) : Prop where
  profile : e.driver.profile = d.driver.profile
  context : e.driver.context = d.driver.context
  contexts : e.driver.contexts = d.driver.contexts
  faults : e.faults = d.faults

theorem SameHost.refl (d : Device) : d.SameHost d := ⟨rfl, rfl, rfl, rfl⟩

theorem SameHost.trans {d e f : Device} (h : d.SameHost e) (h' : e.SameHost f) : d.SameHost f :=
  ⟨h'.profile.trans h.profile, h'.context.trans h.context, h'.contexts.trans h.contexts,
    h'.faults.trans h.faults⟩

theorem sameHost_perform (d : Device) (c : Call) : d.SameHost (d.perform c) :=
  ⟨d.driver.profile_perform c, d.driver.context_perform c, d.driver.contexts_perform c, rfl⟩

theorem sameHost_performAll (d : Device) (calls : List Call) : d.SameHost (d.performAll calls) := by
  induction calls generalizing d with
  | nil => exact .refl d
  | cons c calls ih => exact (d.sameHost_perform c).trans (ih _)

/-- What making and deleting objects leaves alone. -/
structure SameFrame (d e : Device) : Prop where
  pipeline : e.driver.pipeline = d.driver.pipeline
  display : e.driver.display = d.driver.display
  program : e.driver.bindings.program = d.driver.bindings.program
  pretence : e.driver.pretence = d.driver.pretence

theorem SameFrame.refl (d : Device) : d.SameFrame d := ⟨rfl, rfl, rfl, rfl⟩

theorem SameFrame.trans {d e f : Device} (h : d.SameFrame e) (h' : e.SameFrame f) :
    d.SameFrame f :=
  ⟨h'.pipeline.trans h.pipeline, h'.display.trans h.display, h'.program.trans h.program,
    h'.pretence.trans h.pretence⟩

theorem sameFrame_perform (d : Device) {c : Call} (hp : c.paints = false)
    (hs : c.setsPipeline = false) (hu : c.setsProgram = false) : d.SameFrame (d.perform c) :=
  ⟨d.driver.pipeline_perform hs, d.driver.display_perform hp, d.driver.program_perform hu,
    d.driver.pretence_perform c⟩

theorem sameFrame_performAll {calls : List Call}
    (h : ∀ c ∈ calls, c.paints = false ∧ c.setsPipeline = false ∧ c.setsProgram = false)
    (d : Device) : d.SameFrame (d.performAll calls) := by
  induction calls generalizing d with
  | nil => exact .refl d
  | cons c calls ih =>
    obtain ⟨hp, hs, hu⟩ := h c List.mem_cons_self
    exact (d.sameFrame_perform hp hs hu).trans
      (ih (fun c' hc' => h c' (List.mem_cons_of_mem _ hc')) _)

/-! ## Orderly operation -/

/-- The device gets from `d` to another state by calls, attempted creations and compilations, and
each deletion names an object that is live when it is performed. -/
inductive Orderly (d : Device) : Device → Prop where
  | refl : Orderly d d
  | perform {e : Device} {c : Call} :
    Orderly d e → (∀ x, c.deletes? = some x → e.Live x) → Orderly d (e.perform c)
  | attempt {e : Device} (what : Creation) : Orderly d e → Orderly d (e.attempt what).2
  | compile {e : Device} (id : ShaderId) (source : String) :
    Orderly d e → Orderly d (e.compile id source).2

theorem Orderly.trans {d e f : Device} (h : d.Orderly e) (h' : e.Orderly f) : d.Orderly f := by
  induction h' with
  | refl => exact h
  | perform _ hl ih => exact ih.perform hl
  | attempt what _ ih => exact ih.attempt what
  | compile id source _ ih => exact ih.compile id source

theorem Orderly.performAll {d e : Device} (h : d.Orderly e) {calls : List Call}
    (hc : ∀ c ∈ calls, c.deletes? = none) : d.Orderly (e.performAll calls) := by
  induction calls generalizing e with
  | nil => exact h
  | cons c calls ih =>
    refine ih (h.perform ?_) fun c' hc' => hc c' (List.mem_cons_of_mem _ hc')
    rw [hc c List.mem_cons_self]
    exact nofun

/-! ## Growth -/

/-- The device gets from `d` to `e` in an orderly way, all objects that were there keep their
outlines, and the handles in `new` are live in addition, under names handed out meanwhile. -/
structure Grows (d e : Device) (new : List Handle) : Prop where
  outline : ∀ x, x.name ≤ d.driver.objects.issued →
    e.driver.objects.outline? x = d.driver.objects.outline? x
  live : ∀ x, e.Live x ↔ d.Live x ∨ x ∈ new
  fresh : ∀ x ∈ new, d.driver.objects.issued < x.name
  nodup : new.Nodup
  edits : d.driver.objects.Edits e.driver.objects
  host : d.SameHost e
  orderly : d.Orderly e

theorem Grows.refl (d : Device) : d.Grows d [] where
  outline _ _ := rfl
  live x := by simp
  fresh := nofun
  nodup := List.nodup_nil
  edits := .refl
  host := .refl d
  orderly := .refl

theorem Grows.trans {d e f : Device} {new more : List Handle} (h : d.Grows e new)
    (h' : e.Grows f more) (hr : d.driver.objects.Regular) : d.Grows f (more ++ new) where
  outline x hx := by
    rw [h'.outline x (Nat.le_trans hx h.edits.issued_le), h.outline x hx]
  live x := by
    rw [h'.live, h.live, List.mem_append]
    tauto
  fresh x hx := by
    rcases List.mem_append.mp hx with hx | hx
    · have := h'.fresh x hx
      have := h.edits.issued_le
      omega
    · exact h.fresh x hx
  nodup := by
    refine List.nodup_append'.mpr ⟨h'.nodup, h.nodup, fun x hm hn => ?_⟩
    -- what came first is live in between, so its name was handed out before the others
    have hlive : e.Live x := (h.live x).mpr (Or.inr hn)
    have := (h.edits.regular hr).name_le x hlive
    have := h'.fresh x hm
    omega
  edits := h.edits.trans h'.edits
  host := h.host.trans h'.host
  orderly := h.orderly.trans h'.orderly

theorem Grows.regular {d e : Device} {new : List Handle} (h : d.Grows e new)
    (hr : d.driver.objects.Regular) : e.driver.objects.Regular := h.edits.regular hr

/-- A live object keeps its outline. -/
theorem Grows.outline_of_live {d e : Device} {new : List Handle} (h : d.Grows e new)
    (hr : d.driver.objects.Regular) {x : Handle} (hx : d.Live x) :
    e.driver.objects.outline? x = d.driver.objects.outline? x :=
  h.outline x (hr.name_le x hx)

theorem grows_performAll (d : Device) {calls : List Call} (hq : ∀ c ∈ calls, c.isQuiet = true) :
    d.Grows (d.performAll calls) [] where
  outline x _ :=
    performAll_induct (P := fun v => v.objects.outline? x = d.driver.objects.outline? x)
      (fun c hc v hv => (v.outline?_perform_of_isQuiet (hq c hc) x).trans hv) rfl
  live x := by
    rw [List.mem_nil_iff, or_false]
    exact performAll_induct (P := fun v => v.objects.Live x ↔ d.Live x)
      (fun c hc v hv =>
        (Objects.live_congr (v.outline?_perform_of_isQuiet (hq c hc) x)).trans hv) Iff.rfl
  fresh := nofun
  nodup := List.nodup_nil
  edits := performAll_induct (P := fun v => d.driver.objects.Edits v.objects)
    (fun c _ v hv => hv.trans (v.edits_perform c)) .refl
  host := d.sameHost_performAll calls
  orderly := Orderly.refl.performAll fun c hc => Call.deletes?_of_isQuiet (hq c hc)

theorem Grows.perm {d e : Device} {new other : List Handle} (h : d.Grows e new)
    (hp : new.Perm other) : d.Grows e other where
  outline := h.outline
  live x := by rw [h.live, hp.mem_iff]
  fresh x hx := h.fresh x (hp.mem_iff.mpr hx)
  nodup := hp.nodup_iff.mp h.nodup
  edits := h.edits
  host := h.host
  orderly := h.orderly

/-! ## Creations -/

theorem attempt_ok {d e : Device} {what : Creation} {name : Nat}
    (h : d.attempt what = (.ok name, e)) :
    name = d.driver.objects.issued + 1 ∧ e.driver = d.driver.perform (.create what) ∧
      e.faults = d.faults := by
  unfold attempt at h
  split at h
  · cases h
  · cases h
    exact ⟨rfl, rfl, rfl⟩

theorem attempt_error {d e : Device} {what : Creation} {failure : Failure}
    (h : d.attempt what = (.error failure, e)) :
    d.faults.refuses d.creations = true ∧ failure = .driver ("refused " ++ what.kind.word) ∧
      e.driver = d.driver ∧ e.faults = d.faults := by
  unfold attempt at h
  split at h
  · cases h
    exact ⟨by assumption, rfl, rfl, rfl⟩
  · cases h

theorem grows_attempt {d e : Device} {what : Creation} {name : Nat}
    (h : d.attempt what = (.ok name, e)) : d.Grows e [⟨what.kind, name⟩] := by
  obtain ⟨rfl, hd, hf⟩ := attempt_ok h
  have he : e = (d.attempt what).2 := (congrArg Prod.snd h).symm
  refine ⟨fun x hx => ?_, fun x => ?_, by simp, List.nodup_singleton _, ?_, ?_, ?_⟩
  · rw [hd]
    refine Driver.outline?_perform fun ht => ?_
    cases ht
    exact Nat.not_succ_le_self _ hx
  · rw [Live, hd, Objects.Live, Driver.stored?_perform_create, List.mem_singleton]
    by_cases hx : x = ⟨what.kind, d.driver.objects.issued + 1⟩ <;> simp [hx, Live, Objects.Live]
  · rw [hd]
    exact d.driver.edits_perform _
  · exact ⟨by rw [hd, Driver.profile_perform], by rw [hd, Driver.context_perform],
      by rw [hd, Driver.contexts_perform], hf⟩
  · rw [he]
    exact Orderly.refl.attempt what

/-- A refused creation leaves the driver as it is. -/
theorem grows_refused {d e : Device} {what : Creation} {failure : Failure}
    (h : d.attempt what = (.error failure, e)) : d.Grows e [] := by
  obtain ⟨-, -, hd, hf⟩ := attempt_error h
  have he : e = (d.attempt what).2 := (congrArg Prod.snd h).symm
  refine ⟨fun x _ => by rw [hd], fun x => ?_, nofun, List.nodup_nil, ?_, ?_, ?_⟩
  · rw [Live, hd, List.mem_nil_iff, or_false]
    rfl
  · rw [hd]
    exact .refl
  · exact ⟨by rw [hd], by rw [hd], by rw [hd], hf⟩
  · rw [he]
    exact Orderly.refl.attempt what

/-! ## Deletion -/

/-- The objects under `gone` are deleted, and the others are as they were. -/
structure Drops (d e : Device) (gone : List Handle) : Prop where
  stored : ∀ x, e.driver.objects.stored? x = if x ∈ gone then none else d.driver.objects.stored? x
  edits : d.driver.objects.Edits e.driver.objects
  host : d.SameHost e

theorem Drops.live {d e : Device} {gone : List Handle} (h : d.Drops e gone) (x : Handle) :
    e.Live x ↔ d.Live x ∧ x ∉ gone := by
  rw [Live, Objects.Live, h.stored, Live, Objects.Live]
  split <;> simp_all

theorem Drops.outline {d e : Device} {gone : List Handle} (h : d.Drops e gone) {x : Handle}
    (hx : x ∉ gone) : e.driver.objects.outline? x = d.driver.objects.outline? x :=
  Objects.outline?_congr (by rw [h.stored, if_neg hx])

theorem drops_performAll (d : Device) {calls : List Call} {gone : List Handle}
    (h : calls.map Call.deletes? = gone.map some) : d.Drops (d.performAll calls) gone := by
  induction calls generalizing d gone with
  | nil =>
    obtain rfl : gone = [] := by simpa using h.symm
    exact ⟨fun x => by simp, .refl, .refl d⟩
  | cons c calls ih =>
    cases gone with
    | nil => simp at h
    | cons y gone =>
      obtain ⟨hc, hrest⟩ := List.cons.inj h
      have hd := ih (d.perform c) hrest
      refine ⟨fun x => ?_, (d.driver.edits_perform c).trans hd.edits,
        (d.sameHost_perform c).trans hd.host⟩
      rw [performAll_cons, hd.stored, driver_perform, Driver.stored?_perform_of_deletes hc]
      by_cases hx : x = y <;> simp [hx]

/-- Deleting live objects, each once, is orderly. -/
theorem orderly_deletions (d : Device) {calls : List Call} {gone : List Handle}
    (h : calls.map Call.deletes? = gone.map some) (hn : gone.Nodup) (hl : ∀ x ∈ gone, d.Live x) :
    d.Orderly (d.performAll calls) := by
  induction calls generalizing d gone with
  | nil => exact .refl
  | cons c calls ih =>
    cases gone with
    | nil => simp at h
    | cons y gone =>
      obtain ⟨hc, hrest⟩ := List.cons.inj h
      obtain ⟨hy, hn⟩ := List.nodup_cons.mp hn
      refine (Orderly.refl.perform ?_).trans (ih (d.perform c) hrest hn fun x hx => ?_)
      · rintro x hx
        rw [Option.some.inj (hx.symm.trans hc)]
        exact hl y List.mem_cons_self
      · -- the objects still to be deleted are others than the one just deleted
        rw [Live, driver_perform, Objects.Live, Driver.stored?_perform_of_deletes hc, if_neg]
        · exact hl x (List.mem_cons_of_mem _ hx)
        · rintro rfl
          exact hy hx

end Device

end Compositor
