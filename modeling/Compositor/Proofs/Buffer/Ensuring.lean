import Compositor.Proofs.Buffer.Making
import Compositor.Proofs.Device.Reachable

/-!
# Ensuring a buffer set

What becomes of a backing and its device when a set is ensured: nothing if the backing serves the
order, and else first the old set is given up and then a new one is made. A failure is atomic: but
for the old set, the device has the objects that it had, and the same order can be filled as soon as
nothing goes wrong.
-/

namespace Compositor

namespace Backing

variable {b : Backing} {order : Order} {caps : Capabilities} {d e : Device}

/-! ## Giving the old set up -/

/-- The objects that are deleted when the set does not serve: all of the set if its context goes
with `owner`. -/
def spent (b : Backing) (owner : Context) : List Handle :=
  match b.set? with
  | none => []
  | some set => if set.order.owner.compatible owner then set.handles else []

theorem set?_destroy (b : Backing) (d : Device) : (b.destroy d).1.set? = none := by
  cases b <;> rfl

theorem device_destroy (b : Backing) (d : Device) :
    (b.destroy d).2 = match b.set? with
      | none => d
      | some set => set.delete d := by
  cases b <;> rfl

theorem discard_of_none (h : b.set? = none) (owner : Context) (d : Device) :
    b.discard owner d = (b, d) := by
  rw [discard, h]

theorem set?_discard (b : Backing) (owner : Context) (d : Device) :
    (b.discard owner d).1.set? = none := by
  unfold discard
  cases h : b.set? with
  | none => exact h
  | some set =>
    dsimp only
    split
    · exact b.set?_destroy d
    · rfl

theorem device_discard (b : Backing) (owner : Context) (d : Device) :
    (b.discard owner d).2 = match b.set? with
      | none => d
      | some set => if set.order.owner.compatible owner then set.delete d else d := by
  unfold discard
  cases h : b.set? with
  | none => rfl
  | some set =>
    dsimp only
    split
    · rw [device_destroy, h]
    · rfl

theorem drops_delete (s : BufferSet) (d : Device) : d.Drops (s.delete d) s.handles :=
  d.drops_performAll s.deletes?_parts

/-- After a set was deleted its objects are gone, and nothing else has changed but bindings. -/
theorem drops_destroy (b : Backing) (d : Device) :
    d.Drops (b.destroy d).2 (b.set?.elim [] BufferSet.handles) ∧ d.SameFrame (b.destroy d).2 := by
  rw [device_destroy]
  cases b.set? with
  | none => exact ⟨⟨fun _ => rfl, .refl, .refl d⟩, .refl d⟩
  | some set => exact ⟨drops_delete set d, set.sameFrame_delete d⟩

/-- After the old set was given up, its spent objects are gone, and nothing else has changed but
bindings. -/
theorem drops_discard (b : Backing) (owner : Context) (d : Device) :
    d.Drops (b.discard owner d).2 (b.spent owner) ∧ d.SameFrame (b.discard owner d).2 := by
  rw [device_discard, spent]
  cases b.set? with
  | none => exact ⟨⟨fun _ => rfl, .refl, .refl d⟩, .refl d⟩
  | some set =>
    dsimp only
    split
    · exact ⟨drops_delete set d, set.sameFrame_delete d⟩
    · exact ⟨⟨fun _ => rfl, .refl, .refl d⟩, .refl d⟩

/-- Giving a set up hands out no name. -/
theorem issued_discard (b : Backing) (owner : Context) (d : Device) :
    (b.discard owner d).2.driver.objects.issued = d.driver.objects.issued := by
  have hparts (set : BufferSet) : ∀ c ∈ set.parts.map Part.deletion, c.creates? = none := by
    intro c hc
    obtain ⟨part, -, rfl⟩ := List.mem_map.mp hc
    cases part <;> rfl
  rw [device_discard]
  cases b.set? with
  | none => rfl
  | some set =>
    dsimp only
    split
    · exact d.issued_performAll (hparts set)
    · rfl

theorem reachable_discard (hd : d.Reachable) (b : Backing) (owner : Context) :
    (b.discard owner d).2.Reachable := by
  rw [device_discard]
  cases b.set? with
  | none => exact hd
  | some set =>
    dsimp only
    split
    · exact hd.performAll _
    · exact hd

/-! ## Outcomes -/

theorem ensure_of_serves (h : b.serves order = true) : b.ensure order caps d = (.ok (), b, d) := by
  rw [ensure, if_pos h]

/-- Where the set does not serve, the old one is given up and a new one is made. -/
theorem ensure_of_not_serves (hs : b.serves order = false) :
    b.ensure order caps d =
      match order.layout caps with
      | .error failure => (.error failure, b.discard order.owner d)
      | .ok layout =>
        match BufferSet.make order layout (b.discard order.owner d).2 with
        | (.error failure, e) => (.error failure, destroyed, e)
        | (.ok set, e) => (.ok (), .ready set .fresh, e) := by
  unfold ensure
  exact if_neg (by rw [hs]; exact Bool.false_ne_true)

/-- What is ensured is made once the old set was given up. -/
theorem ensure_discard (hs : b.serves order = false) :
    b.ensure order caps d =
      (b.discard order.owner d).1.ensure order caps (b.discard order.owner d).2 := by
  have hnone := b.set?_discard order.owner d
  have hserves : (b.discard order.owner d).1.serves order = false := by
    rw [serves, hnone]
    rfl
  rw [ensure_of_not_serves hs, ensure_of_not_serves hserves, discard_of_none hnone]

/-- A set is ensured where the backing served or a new set could be made. -/
theorem made_of_ensure (hd : d.driver.objects.Regular) {b' : Backing}
    (hs : b.serves order = false) (h : b.ensure order caps d = (.ok (), b', e)) :
    ∃ layout set, order.layout caps = .ok layout ∧ b' = .ready set .fresh ∧
      set.Made order layout (b.discard order.owner d).2 e := by
  have hr := (b.drops_discard order.owner d).1.edits.regular hd
  rw [ensure, if_neg (by rw [hs]; exact nofun)] at h
  dsimp only at h
  cases hl : order.layout caps with
  | error failure =>
    rw [hl] at h
    cases h
  | ok layout =>
    rw [hl] at h
    dsimp only at h
    split at h
    · cases h
    · rename_i set d' hm
      cases h
      exact ⟨layout, set, rfl, rfl, BufferSet.made_of_make hr hm⟩

/-- A set is not ensured where there is no layout, or where the device has an excuse. -/
theorem restored_of_ensure (hd : d.driver.objects.Regular) {b' : Backing} {failure : Failure}
    (h : b.ensure order caps d = (.error failure, b', e)) :
    b'.set? = none ∧ (b.discard order.owner d).2.Restored e ∧
      (order.layout caps = .error failure ∨
        (∃ layout, order.layout caps = .ok layout) ∧ d.Excuses failure) := by
  have hdrop := b.drops_discard order.owner d
  have hr := hdrop.1.edits.regular hd
  rw [ensure] at h
  split at h
  · cases h
  · dsimp only at h
    cases hl : order.layout caps with
    | error failure' =>
      rw [hl] at h
      cases h
      exact ⟨b.set?_discard _ d, ⟨.refl _, .refl _⟩, Or.inl rfl⟩
    | ok layout =>
      rw [hl] at h
      dsimp only at h
      split at h
      · rename_i failure' d' hm
        cases h
        obtain ⟨he, hrest⟩ := BufferSet.restored_of_make hr hm
        exact ⟨rfl, hrest, Or.inr ⟨⟨layout, rfl⟩, he.of_same hdrop.1.host hdrop.2⟩⟩
      · cases h

/-- Where the set does not serve, it is given up, and what is there afterwards was made for the
order. -/
theorem grows_of_ensure (hd : d.driver.objects.Regular) {b' : Backing}
    {result : Except Failure Unit} (hs : b.serves order = false)
    (h : b.ensure order caps d = (result, b', e)) :
    ∃ new, (b.discard order.owner d).2.Grows e new ∧
      ∀ set, b'.set? = some set → set.order = order ∧ set.handles = new := by
  cases result with
  | error failure =>
    obtain ⟨hnone, hrest, -⟩ := restored_of_ensure hd h
    refine ⟨[], hrest.adds.grows, fun set hset => ?_⟩
    rw [hnone] at hset
    cases hset
  | ok u =>
    obtain ⟨layout, set, -, rfl, hmade⟩ := made_of_ensure hd hs h
    refine ⟨set.handles, hmade.grows, fun set' hset => ?_⟩
    cases hset
    exact ⟨hmade.order, rfl⟩

theorem regular_ensure (hd : d.driver.objects.Regular) {b' : Backing}
    {result : Except Failure Unit} (h : b.ensure order caps d = (result, b', e)) :
    e.driver.objects.Regular := by
  cases hs : b.serves order with
  | true =>
    rw [ensure_of_serves hs] at h
    cases h
    exact hd
  | false =>
    obtain ⟨new, hgrows, -⟩ := grows_of_ensure hd hs h
    exact hgrows.regular ((b.drops_discard order.owner d).1.edits.regular hd)

theorem reachable_ensure (hd : d.Reachable) {b' : Backing} {result : Except Failure Unit}
    (h : b.ensure order caps d = (result, b', e)) : e.Reachable := by
  cases hs : b.serves order with
  | true =>
    rw [ensure_of_serves hs] at h
    cases h
    exact hd
  | false =>
    obtain ⟨new, hgrows, -⟩ := grows_of_ensure hd.regular hs h
    exact hgrows.orderly.reachable (reachable_discard hd b _)

/-- Without a set, and where nothing goes wrong, every order with a layout is filled. -/
theorem ensure_of_isFaultless (hd : d.driver.objects.Regular) (hf : d.IsFaultless)
    (hb : b.set? = none) {layout : Layout} (hl : order.layout caps = .ok layout) :
    ∃ set e, b.ensure order caps d = (.ok (), .ready set .fresh, e) ∧
      set.Made order layout d e := by
  obtain ⟨set, e, hm, hmade⟩ := BufferSet.make_of_isFaultless hd hf order layout
  refine ⟨set, e, ?_, hmade⟩
  have hs : b.serves order = false := by rw [serves, hb]; rfl
  have hdev : (b.discard order.owner d).2 = d := by rw [device_discard, hb]
  rw [ensure, if_neg (by rw [hs]; exact nofun)]
  simp only [hl, hdev, hm]

theorem layout_error {failure : Failure} (h : order.layout caps = .error failure) :
    failure = .multisampleUnsupported ∨ ∃ text, failure = .config text := by
  unfold Order.layout at h
  split at h
  · cases h
    exact Or.inl rfl
  · split at h
    · cases h
      exact Or.inr ⟨_, rfl⟩
    · cases h

/-! ## Failure is atomic -/

/-- What a failure to ensure a set for `owner` leaves of the backing `b` on the device `d`. -/
structure FailsCleanly (b : Backing) (owner : Context) (d : Device) (b' : Backing) (e : Device) :
    Prop where
  empty : b'.set? = none
  /-- What was made meanwhile is gone. -/
  gone : ∀ x, d.driver.objects.issued < x.name → ¬ e.Live x
  /-- Objects of others keep storage, attachments and contents. -/
  kept : ∀ x, (∀ set, b.set? = some set → x ∉ set.handles) →
    e.driver.objects.stored? x = d.driver.objects.stored? x
  /-- The old set is deleted if its context goes with the owner. -/
  deleted : ∀ set, b.set? = some set → set.order.owner.compatible owner = true →
    ∀ x ∈ set.handles, ¬ e.Live x
  /-- Otherwise it is not touched. -/
  untouched : ∀ set, b.set? = some set → set.order.owner.compatible owner = false →
    ∀ x ∈ set.handles, e.driver.objects.stored? x = d.driver.objects.stored? x
  frame : d.SameFrame e

theorem failsCleanly_of_restored (hd : d.driver.objects.Regular) {owner : Context} {b' : Backing}
    (hb : b'.set? = none) (hr : (b.discard owner d).2.Restored e) :
    b.FailsCleanly owner d b' e := by
  obtain ⟨hdrop, hframe⟩ := b.drops_discard owner d
  -- what was made meanwhile is gone again, so only the spent objects make a difference
  have hstored (x : Handle) : e.driver.objects.stored? x =
      if x ∈ b.spent owner then none else d.driver.objects.stored? x := by
    rw [hr.stored, hdrop.stored]
  refine ⟨hb, fun x hx hl => hl ?_, fun x hx => ?_, fun set hset hc x hx hl => hl ?_,
    fun set hset hc x _ => ?_, hframe.trans hr.frame⟩
  · rw [hstored, hd.stored?_eq_none hx, ite_self]
  · rw [hstored, if_neg]
    unfold spent
    cases hset : b.set? with
    | none => exact List.not_mem_nil
    | some set =>
      dsimp only
      split
      · exact hx set hset
      · exact List.not_mem_nil
  · rw [hstored, if_pos]
    rw [spent, hset]
    simpa [hc] using hx
  · rw [hstored, if_neg]
    rw [spent, hset]
    simp [hc]

/-- A failure to ensure a set is atomic: no set and none of its parts remain, other objects are as
they were, and the old set is deleted or left alone as a whole. If the driver was at fault, the same
order is filled on any device where nothing goes wrong, as it would be without a set before. -/
theorem atomic_of_ensure_error (hd : d.Reachable) {b' : Backing} {failure : Failure}
    (h : b.ensure order caps d = (.error failure, b', e)) :
    b.FailsCleanly order.owner d b' e ∧ e.Reachable ∧
      ((∃ status, failure = .framebufferIncomplete status) ∨ (∃ text, failure = .driver text) →
        ∀ d₁ d₂ : Device, d₁.Reachable → d₁.IsFaultless → d₂.Reachable → d₂.IsFaultless →
          ∃ set₁ e₁ set₂ e₂,
            b'.ensure order caps d₁ = (.ok (), .ready set₁ .fresh, e₁) ∧
              uninitialized.ensure order caps d₂ = (.ok (), .ready set₂ .fresh, e₂) ∧
              set₁.order = order ∧ set₂.order = order ∧ set₁.layout = set₂.layout) := by
  obtain ⟨hb, hrest, hcause⟩ := restored_of_ensure hd.regular h
  refine ⟨failsCleanly_of_restored hd.regular hb hrest, reachable_ensure hd h, ?_⟩
  intro hdriver d₁ d₂ hd₁ hf₁ hd₂ hf₂
  -- the layout depends on the order and the capabilities alone
  obtain ⟨layout, hl⟩ : ∃ layout, order.layout caps = .ok layout := by
    rcases hcause with hl | ⟨hl, -⟩
    · rcases layout_error hl with rfl | ⟨text, rfl⟩ <;> simp at hdriver
    · exact hl
  obtain ⟨set₁, e₁, h₁, hm₁⟩ := ensure_of_isFaultless hd₁.regular hf₁ hb hl
  obtain ⟨set₂, e₂, h₂, hm₂⟩ :=
    ensure_of_isFaultless (b := uninitialized) hd₂.regular hf₂ rfl hl
  exact ⟨set₁, e₁, set₂, e₂, h₁, h₂, hm₁.order, hm₂.order, hm₁.layout.trans hm₂.layout.symm⟩

/-- The second creation is refused: the texture made before is deleted again. -/
theorem atomic_of_refused_framebuffer :
    ∃ b' e, uninitialized.ensure (.ofQuality ⟨4, 4⟩ 1 (.live 1)) ⟨true, true, true, true, 8⟩
        { Device.create .full with faults := FaultPlan.none.refuseAfter 0 2 } =
          (.error (.driver "refused framebuffer"), b', e) ∧
      uninitialized.FailsCleanly (.live 1)
        { Device.create .full with faults := FaultPlan.none.refuseAfter 0 2 } b' e ∧
      ∃ set e', b'.ensure (.ofQuality ⟨4, 4⟩ 1 (.live 1)) ⟨true, true, true, true, 8⟩
        (.create .full) = (.ok (), .ready set .fresh, e') := by
  have hd :
      Device.Reachable { Device.create .full with faults := FaultPlan.none.refuseAfter 0 2 } :=
    .setFaults _ (.create .full)
  obtain ⟨b', e, h⟩ : ∃ b' e,
      uninitialized.ensure (.ofQuality ⟨4, 4⟩ 1 (.live 1)) ⟨true, true, true, true, 8⟩
        { Device.create .full with faults := FaultPlan.none.refuseAfter 0 2 } =
          (.error (.driver "refused framebuffer"), b', e) := ⟨_, _, rfl⟩
  obtain ⟨hclean, -, hretry⟩ := atomic_of_ensure_error hd h
  have hf : (Device.create .full).IsFaultless := ⟨fun _ => rfl, nofun⟩
  obtain ⟨set, e', -, -, he, -⟩ :=
    hretry (Or.inr ⟨_, rfl⟩) _ _ (.create .full) hf (.create .full) hf
  exact ⟨b', e, h, hclean, set, e', he⟩

end Backing

end Compositor
