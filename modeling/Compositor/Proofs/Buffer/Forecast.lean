import Compositor.Proofs.Buffer.Ensuring

/-!
# What becomes of a set, told in advance

Making a set passes a fixed row of hurdles: creations that the device may refuse, and checks in
which it may pretend a fault. Which of them brings the making to a halt follows from the fault plan,
the count of creations and the pretence, so two devices that agree in these agree in the outcome,
whatever objects they have.
-/

namespace Compositor

/-- A place where the making of a set may come to a halt. -/
inductive Hurdle where
  | creation (what : Creation)
  /-- What is drawn to has to be complete. -/
  | check

/-- The hurdles for a set, in the order in which they come. -/
def Layout.hurdles (l : Layout) : List Hurdle :=
  [.creation .texture, .creation .framebuffer, .check] ++
    ((if l.isMultisample then [.creation .framebuffer, .creation .renderbuffer] else []) ++
      [.creation .renderbuffer, .check])

/-- What a device has in store for what is made on it. -/
structure Prospects where
  profile : Profile
  faults : FaultPlan
  /-- How many creations were attempted. -/
  creations : Nat
  pretence : Pretence

namespace Prospects

/-- The prospects after a creation was granted. -/
def granted (p : Prospects) : Prospects := { p with creations := p.creations + 1 }

/-- What comes of the hurdles, with the failure at the first one that is not taken. -/
def outcome (p : Prospects) : List Hurdle → Except Failure Unit
  | [] => .ok ()
  | .creation what :: rest =>
    if p.faults.refuses p.creations then .error (.driver ("refused " ++ what.kind.word))
    else p.granted.outcome rest
  | .check :: rest =>
    match p.pretence.status with
    | none => p.outcome rest
    | some status =>
      if status.isComplete then p.outcome rest else .error (.framebufferIncomplete status)

end Prospects

namespace Device

def prospects (d : Device) : Prospects :=
  ⟨d.driver.profile, d.faults, d.creations, d.driver.pretence⟩

@[simp] theorem prospects_perform (d : Device) (c : Call) :
    (d.perform c).prospects = d.prospects := by
  simp only [prospects, driver_perform, Driver.profile_perform, Driver.pretence_perform]
  rfl

@[simp] theorem prospects_performAll (d : Device) (calls : List Call) :
    (d.performAll calls).prospects = d.prospects := by
  induction calls generalizing d with
  | nil => rfl
  | cons c calls ih => rw [performAll_cons, ih, prospects_perform]

theorem prospects_attempt {d e : Device} {what : Creation} {name : Nat}
    (h : d.attempt what = (.ok name, e)) :
    d.faults.refuses d.creations = false ∧ e.prospects = d.prospects.granted := by
  unfold attempt at h
  split at h
  · cases h
  · rename_i hr
    cases h
    refine ⟨eq_false_of_ne_true hr, ?_⟩
    simp only [prospects, Driver.profile_perform, Driver.pretence_perform]
    rfl

/-- A framebuffer is drawn to. -/
def IsBound (d : Device) : Prop := d.driver.bindings.draw.isSome = true

theorem IsBound.performAll {d : Device} (h : d.IsBound) {calls : List Call}
    (hc : ∀ c ∈ calls, c.setsFramebuffer = false) : (d.performAll calls).IsBound :=
  performAll_induct (P := fun v => v.bindings.draw.isSome = true)
    (fun c hmem v hv => by rwa [(v.framebuffers_perform (hc c hmem)).2]) h

theorem IsBound.attempt {d e : Device} (h : d.IsBound) {what : Creation} {name : Nat}
    (ha : d.attempt what = (.ok name, e)) : e.IsBound := by
  rw [IsBound, (attempt_ok ha).2.1, Driver.bindings_perform _ rfl]
  exact h

/-- A check passes only where no fault is pretended. -/
theorem IsBound.outcome_check {d : Device} (h : d.IsBound)
    (hs : d.driver.status.isComplete = true) (rest : List Hurdle) :
    d.prospects.outcome (.check :: rest) = d.prospects.outcome rest := by
  obtain ⟨id, hid⟩ := Option.isSome_iff_exists.mp h
  rw [Driver.status, hid] at hs
  dsimp only at hs
  rw [Prospects.outcome, show d.prospects.pretence = d.driver.pretence from rfl]
  split at hs
  · rename_i status hp
    rw [hp]
    exact if_pos hs
  · rename_i hp
    rw [hp]

end Device

/-- The hurdles ahead decide what becomes of the making as a whole. -/
structure Workbench.Awaits (w : Workbench) (d : Device) (total : Except Failure Unit)
    (rest : List Hurdle) : Prop where
  pretence : w.device.driver.pretence = d.driver.pretence
  outcome : w.device.prospects.outcome rest = total

/-- A failure that the device excuses is the one told in advance. -/
def Device.Foretells (d : Device) (total : Except Failure Unit) (failure : Failure)
    (_ : Workbench) : Prop :=
  d.Excuses failure → total = .error failure

section

variable {α : Type} {d : Device} {w : Workbench} {total : Except Failure Unit} {rest : List Hurdle}
variable {post : α → Workbench → Prop}

namespace Workbench.Awaits

theorem tell_then (h : w.Awaits d total rest) {calls : List Call} {f : Unit → Build α}
    (hf : Awaits { w with device := w.device.performAll calls } d total rest →
      (f ()).Meets { w with device := w.device.performAll calls } post (d.Foretells total)) :
    (Build.tell calls >>= f).Meets w post (d.Foretells total) := by
  have hp : (w.device.performAll calls).prospects = w.device.prospects :=
    w.device.prospects_performAll calls
  refine Build.meets_bind (Build.meets_tell (hf ⟨?_, ?_⟩))
  · exact (congrArg Prospects.pretence hp).trans h.pretence
  · rw [hp]
    exact h.outcome

theorem make_then {what : Creation} (h : w.Awaits d total (.creation what :: rest))
    {part : ObjectId what.kind → Part} {f : ObjectId what.kind → Build α}
    (hf : ∀ id w', w'.Awaits d total rest → (w.device.IsBound → w'.device.IsBound) →
      (f id).Meets w' post (d.Foretells total)) :
    (Build.make what part >>= f).Meets w post (d.Foretells total) := by
  have htotal := h.outcome
  rw [Prospects.outcome] at htotal
  refine Build.meets_bind (Build.meets_make (fun name e ha => ?_) fun failure e ha _ => ?_)
  · obtain ⟨hr, hp⟩ := Device.prospects_attempt ha
    rw [if_neg (by rw [show w.device.prospects.faults.refuses w.device.prospects.creations =
      false from hr]; exact Bool.false_ne_true), ← hp] at htotal
    refine hf _ _ ⟨?_, htotal⟩ fun hb => hb.attempt ha
    exact (congrArg Prospects.pretence hp).trans h.pretence
  · obtain ⟨hr, rfl, -, -⟩ := Device.attempt_error ha
    rw [← htotal]
    exact if_pos hr

/-- A check fails under a pretence only, for nothing else is an excuse. -/
theorem check_then (h : w.Awaits d total (.check :: rest)) (hb : w.device.IsBound)
    {f : Unit → Build α}
    (hf : w.Awaits d total rest → (f ()).Meets w post (d.Foretells total)) :
    (Build.check >>= f).Meets w post (d.Foretells total) := by
  refine Build.meets_bind (Build.meets_check (fun hs => hf ⟨h.pretence, ?_⟩) fun _ he => ?_)
  · rw [← hb.outcome_check hs]
    exact h.outcome
  · generalize w.device.driver.status = status at he
    cases he with
    | pretended hp hc =>
      rw [← h.outcome, Prospects.outcome,
        show w.device.prospects.pretence = w.device.driver.pretence from rfl, h.pretence, hp]
      exact if_neg (by rw [hc]; exact Bool.false_ne_true)

end Workbench.Awaits

/-! ## The steps -/

namespace Build

theorem colorTarget_awaits
    (h : w.Awaits d total ([.creation .texture, .creation .framebuffer, .check] ++ rest))
    (size : Size) :
    (colorTarget size).Meets w (fun _ w' => w'.Awaits d total rest ∧ w'.device.IsBound)
      (d.Foretells total) := by
  unfold colorTarget
  refine h.make_then fun texture w₁ h₁ _ => h₁.tell_then fun h₂ => ?_
  refine h₂.make_then fun framebuffer w₃ h₃ _ => h₃.tell_then fun h₄ => ?_
  have hb : (w₃.device.performAll [.bindFramebuffer .both (some framebuffer),
      .attachTexture .color .texture2d texture]).IsBound :=
    Device.IsBound.performAll (d := w₃.device.perform (.bindFramebuffer .both (some framebuffer)))
      rfl (by simp [Call.setsFramebuffer])
  exact h₄.check_then hb fun h₅ => meets_pure ⟨h₅, hb⟩

theorem multisampleTarget_awaits
    (h : w.Awaits d total ([.creation .framebuffer, .creation .renderbuffer] ++ rest))
    (layout : Layout) :
    (multisampleTarget layout).Meets w (fun _ w' => w'.Awaits d total rest ∧ w'.device.IsBound)
      (d.Foretells total) := by
  unfold multisampleTarget
  refine h.make_then fun framebuffer w₁ h₁ _ => h₁.tell_then fun h₂ => ?_
  refine h₂.make_then fun color w₃ h₃ hb => h₃.tell_then fun h₄ => meets_pure ⟨h₄, ?_⟩
  exact (hb rfl).performAll (by simp [Call.setsFramebuffer])

theorem depthStore_awaits (h : w.Awaits d total (.creation .renderbuffer :: rest))
    (hb : w.device.IsBound) (layout : Layout) :
    (depthStore layout).Meets w (fun _ w' => w'.Awaits d total rest ∧ w'.device.IsBound)
      (d.Foretells total) := by
  unfold depthStore
  refine h.make_then fun store w₁ h₁ hb₁ => h₁.tell_then fun h₂ => ?_
  have hb₂ : (w₁.device.performAll [.bindRenderbuffer (some store)]).IsBound :=
    (hb₁ hb).performAll (by simp [Call.setsFramebuffer])
  split
  · exact h₂.tell_then fun h₃ =>
      meets_pure ⟨h₃, hb₂.performAll (by simp [Call.setsFramebuffer])⟩
  · exact h₂.tell_then fun h₃ =>
      meets_pure ⟨h₃, hb₂.performAll (by simp [Call.setsFramebuffer])⟩

/-- A set is made where no hurdle is in the way. -/
theorem bufferSet_awaits {layout : Layout} (h : w.Awaits d total layout.hurdles) (order : Order) :
    (bufferSet order layout).Meets w (fun _ _ => total = .ok ()) (d.Foretells total) := by
  unfold bufferSet
  refine meets_bind ((colorTarget_awaits h layout.size).mono fun r w₁ ⟨h₁, hb₁⟩ => ?_)
  cases hm : layout.isMultisample with
  | false =>
    rw [hm] at h₁
    simp only [Bool.false_eq_true, if_false] at h₁ ⊢
    refine meets_bind ((depthStore_awaits h₁ hb₁ layout).mono fun store w₂ ⟨h₂, hb₂⟩ => ?_)
    refine h₂.check_then hb₂ fun h₃ => h₃.tell_then fun h₄ => ?_
    exact meets_pure h₄.outcome.symm
  | true =>
    rw [hm] at h₁
    simp only [if_true] at h₁ ⊢
    refine meets_bind ((multisampleTarget_awaits h₁ layout).mono fun m w₂ ⟨h₂, hb₂⟩ => ?_)
    refine meets_bind ((depthStore_awaits h₂ hb₂ layout).mono fun store w₃ ⟨h₃, hb₃⟩ => ?_)
    refine h₃.check_then hb₃ fun h₄ => h₄.tell_then fun h₅ => h₅.tell_then fun h₆ => ?_
    exact meets_pure h₆.outcome.symm

end Build

end

/-! ## The forecast -/

/-- What comes of making a set follows from the prospects of the device. -/
theorem BufferSet.outcome_make {d : Device} (hr : d.driver.objects.Regular) (order : Order)
    (layout : Layout) :
    (make order layout d).1.map (fun _ => ()) = d.prospects.outcome layout.hurdles := by
  have hstart : Workbench.Awaits ⟨d, []⟩ d (d.prospects.outcome layout.hurdles) layout.hurdles :=
    ⟨rfl, rfl⟩
  have hm := Build.bufferSet_awaits hstart order
  unfold Build.Meets at hm
  rcases hb : Build.bufferSet order layout ⟨d, []⟩ with ⟨failure | set, w⟩
  all_goals rw [hb] at hm
  · have he : make order layout d = (.error failure, w.release) := by
      rw [make, ExceptT.run, hb]
    rw [he, hm (restored_of_make hr he).1]
    rfl
  · rw [make, ExceptT.run, hb, hm]
    rfl

/-- What a set was ordered as, and how it is laid out. -/
def BufferSet.design (s : BufferSet) : Order × Layout := (s.order, s.layout)

namespace Backing

/-- What comes of ensuring a set, and the design of the set that is there then. -/
def forecast (set? : Option BufferSet) (p : Prospects) (order : Order) (caps : Capabilities) :
    Except Failure Unit × Option (Order × Layout) :=
  if set?.any fun set => set.order.owner.compatible order.owner && order.isServedBy set.order then
    (.ok (), set?.map (·.design))
  else
    match order.layout caps with
    | .error failure => (.error failure, none)
    | .ok layout =>
      match p.outcome layout.hurdles with
      | .error failure => (.error failure, none)
      | .ok () => (.ok (), some (order, layout))

variable {b b' : Backing} {d e : Device} {order : Order} {caps : Capabilities}

/-- Deletions leave the prospects as they are. -/
theorem prospects_destroy (b : Backing) (d : Device) :
    (b.destroy d).2.prospects = d.prospects := by
  rw [device_destroy]
  split
  · rfl
  · exact d.prospects_performAll _

theorem prospects_discard (b : Backing) (owner : Context) (d : Device) :
    (b.discard owner d).2.prospects = d.prospects := by
  rw [device_discard]
  split
  · rfl
  · split
    · exact d.prospects_performAll _
    · rfl

/-- The forecast comes true. -/
theorem ensure_forecast (hr : d.driver.objects.Regular) (b : Backing) (order : Order)
    (caps : Capabilities) :
    ((b.ensure order caps d).1, (b.ensure order caps d).2.1.set?.map (·.design)) =
      forecast b.set? d.prospects order caps := by
  cases hs : b.serves order with
  | true =>
    rw [ensure_of_serves hs]
    exact (if_pos hs).symm
  | false =>
    have hd := (b.drops_discard order.owner d).1.edits.regular hr
    rw [forecast, ← serves, hs, if_neg Bool.false_ne_true, ensure_of_not_serves hs]
    cases order.layout caps with
    | error failure =>
      show (_, ((b.discard order.owner d).1.set?).map _) = _
      rw [set?_discard]
      rfl
    | ok layout =>
      have hmake := BufferSet.outcome_make hd order layout
      rw [prospects_discard] at hmake
      dsimp only
      rw [← hmake]
      rcases hm : BufferSet.make order layout (b.discard order.owner d).2 with ⟨failure | set, e⟩
      · rfl
      · have hmade := BufferSet.made_of_make hd hm
        show (_, some (set.order, set.layout)) = (_, some (order, layout))
        rw [hmade.order, hmade.layout]

/-- Ensuring a set does not touch the swap interval. -/
theorem swapInterval_ensure (hr : d.driver.objects.Regular) {outcome : Except Failure Unit}
    (h : b.ensure order caps d = (outcome, b', e)) :
    e.driver.pipeline.swapInterval = d.driver.pipeline.swapInterval := by
  have hdiscard := (b.drops_discard order.owner d).2.pipeline
  cases outcome with
  | error failure => rw [(restored_of_ensure hr h).2.1.frame.pipeline, hdiscard]
  | ok u =>
    cases hs : b.serves order with
    | true =>
      rw [ensure_of_serves hs] at h
      cases h
      rfl
    | false =>
      obtain ⟨layout, set, -, -, hmade⟩ := made_of_ensure hr hs h
      rw [hmade.pipeline, ← hdiscard]
      rfl

end Backing

end Compositor
