import Compositor.Proofs.Buffer.Ensuring
import Compositor.Proofs.Device.Confinement

/-!
# The calls that make a set

Making a set takes a few kinds of calls, and none of them deletes. Ensuring one takes deletions
beside them, of the old set or of the parts of a new one that could not be finished.
-/

namespace Compositor

/-! ## Kinds of calls -/

/-- Whether a call is one of those that make a set. -/
def Call.furnishes : Call → Bool
  | create .texture | create .framebuffer | create .renderbuffer | bindTexture ..
  | textureSampling .. | textureImage .. | bindFramebuffer .. | attachTexture ..
  | attachRenderbuffer .. | bindRenderbuffer _ | renderbufferStorage .. | clearColor _
  | clearDepth _ | clearStencil _ | clear _ => true
  | _ => false

/-- Whether a call deletes an object of a kind that sets are made of. -/
def Call.clearsAway : Call → Bool
  | deleteTexture _ | deleteFramebuffer _ | deleteRenderbuffer _ => true
  | _ => false

theorem Call.deletes?_of_furnishes {c : Call} (h : c.furnishes = true) : c.deletes? = none := by
  cases c <;> first | rfl | cases h

namespace Build

variable {α β : Type} {kind : Call → Prop}

/-- Whatever comes of the step, it takes calls of a kind only. -/
def IsConfined (kind : Call → Prop) (m : Build α) : Prop :=
  ∀ (d : Device) (w : Workbench), d.Confined kind w.device →
    m.Meets w (fun _ w' => d.Confined kind w'.device) fun _ w' => d.Confined kind w'.device

theorem confined_pure (a : α) : IsConfined kind (pure a : Build α) := fun _ _ h => meets_pure h

theorem confined_bind {m : Build α} {f : α → Build β} (hm : IsConfined kind m)
    (hf : ∀ a, IsConfined kind (f a)) : IsConfined kind (m >>= f) := fun d w h =>
  meets_bind ((hm d w h).mono fun a w' h' => hf a d w' h')

theorem confined_tell {calls : List Call} (hc : ∀ c ∈ calls, kind c) :
    IsConfined kind (tell calls) := fun _ _ h => meets_tell (h.performAll hc)

theorem confined_make {what : Creation} {part : ObjectId what.kind → Part}
    (hk : kind (.create what)) : IsConfined kind (make what part) := by
  intro d w h
  have hattempt := h.attempt what hk
  exact meets_make (fun name e ha => by rwa [ha] at hattempt)
    fun failure e ha => by rwa [ha] at hattempt

theorem confined_check : IsConfined kind check := fun _ _ h =>
  meets_check (fun _ => h) fun _ => h

/-! ### The steps -/

theorem furnishes_colorTarget (size : Size) :
    IsConfined (fun c => c.furnishes = true) (colorTarget size) := by
  unfold colorTarget
  refine confined_bind (confined_make rfl) fun texture => ?_
  refine confined_bind (confined_tell (by simp [Call.furnishes])) fun _ => ?_
  refine confined_bind (confined_make rfl) fun framebuffer => ?_
  refine confined_bind (confined_tell (by simp [Call.furnishes])) fun _ => ?_
  exact confined_bind confined_check fun _ => confined_pure _

theorem furnishes_multisampleTarget (layout : Layout) :
    IsConfined (fun c => c.furnishes = true) (multisampleTarget layout) := by
  unfold multisampleTarget
  refine confined_bind (confined_make rfl) fun framebuffer => ?_
  refine confined_bind (confined_tell (by simp [Call.furnishes])) fun _ => ?_
  refine confined_bind (confined_make rfl) fun color => ?_
  exact confined_bind (confined_tell (by simp [Call.furnishes])) fun _ => confined_pure _

theorem furnishes_depthStore (layout : Layout) :
    IsConfined (fun c => c.furnishes = true) (depthStore layout) := by
  unfold depthStore
  refine confined_bind (confined_make rfl) fun store => ?_
  refine confined_bind (confined_tell (by simp [Call.furnishes])) fun _ => ?_
  split <;>
    exact confined_bind (confined_tell (by simp [Call.furnishes])) fun _ => confined_pure _

theorem furnishes_bufferSet (order : Order) (layout : Layout) :
    IsConfined (fun c => c.furnishes = true) (bufferSet order layout) := by
  have hclearing : ∀ c ∈ clearingCalls, c.furnishes = true := by decide
  have hclosing : ∀ c ∈ .bindRenderbuffer none :: clearingCalls, c.furnishes = true :=
    List.forall_mem_cons.mpr ⟨rfl, hclearing⟩
  unfold bufferSet
  refine confined_bind (furnishes_colorTarget layout.size) fun r => ?_
  cases layout.isMultisample with
  | false =>
    refine confined_bind (furnishes_depthStore layout) fun store => ?_
    refine confined_bind confined_check fun _ => ?_
    exact confined_bind (confined_tell hclosing) fun _ => confined_pure _
  | true =>
    refine confined_bind (furnishes_multisampleTarget layout) fun m => ?_
    refine confined_bind (furnishes_depthStore layout) fun store => ?_
    refine confined_bind confined_check fun _ => ?_
    refine confined_bind (confined_tell (List.forall_mem_append.mpr
      ⟨hclearing, by simp [Call.furnishes]⟩)) fun _ => ?_
    exact confined_bind (confined_tell hclosing) fun _ => confined_pure _

end Build

/-! ## What ensuring takes -/

theorem Part.clearsAway_deletion (p : Part) : p.deletion.clearsAway = true := by
  cases p <;> rfl

/-- A set that could be made was made without a deletion. -/
theorem BufferSet.furnishes_make {order : Order} {layout : Layout} {d e : Device} {s : BufferSet}
    (h : make order layout d = (.ok s, e)) : d.Confined (fun c => c.furnishes = true) e := by
  have hm := Build.furnishes_bufferSet order layout d ⟨d, []⟩ .refl
  unfold make at h
  unfold Build.Meets at hm
  rw [ExceptT.run] at h
  split at h
  · rename_i hb
    rw [hb] at hm
    cases h
    exact hm
  · cases h

/-- Whether a call is one of those that make a set or give it up. -/
def Call.handlesSets (c : Call) : Bool := c.furnishes || c.clearsAway

theorem BufferSet.confined_make (order : Order) (layout : Layout) (d : Device) :
    d.Confined (fun c => c.handlesSets = true) (make order layout d).2 := by
  have hm := Build.furnishes_bufferSet order layout d ⟨d, []⟩ .refl
  have hfurnishes (c : Call) (hc : c.furnishes = true) : c.handlesSets = true := by
    rw [Call.handlesSets, hc]
    rfl
  unfold make
  unfold Build.Meets at hm
  rw [ExceptT.run]
  rcases hb : Build.bufferSet order layout ⟨d, []⟩ with ⟨failure | set, w⟩
  · rw [hb] at hm
    refine (hm.mono hfurnishes).performAll fun c hc => ?_
    rcases List.mem_append.mp hc with hc | hc
    · rcases List.mem_pair.mp hc with rfl | rfl <;> rfl
    · obtain ⟨p, -, rfl⟩ := List.mem_map.mp hc
      rw [Call.handlesSets, p.clearsAway_deletion, Bool.or_true]
  · rw [hb] at hm
    exact hm.mono hfurnishes

namespace Backing

variable {b b' : Backing} {d e : Device} {order : Order} {caps : Capabilities}

theorem confined_delete (s : BufferSet) (d : Device) :
    d.Confined (fun c => c.clearsAway = true) (s.delete d) := by
  refine Device.Confined.refl.performAll fun c hc => ?_
  obtain ⟨p, -, rfl⟩ := List.mem_map.mp hc
  exact p.clearsAway_deletion

theorem confined_discard (b : Backing) (owner : Context) (d : Device) :
    d.Confined (fun c => c.clearsAway = true) (b.discard owner d).2 := by
  rw [device_discard]
  cases b.set? with
  | none => exact .refl
  | some set =>
    dsimp only
    split
    · exact confined_delete set d
    · exact .refl

/-- Ensuring a set takes calls that make sets and delete them, and no others. -/
theorem confined_ensure (b : Backing) (order : Order) (caps : Capabilities) (d : Device) :
    d.Confined (fun c => c.handlesSets = true) (b.ensure order caps d).2.2 := by
  cases hs : b.serves order with
  | true =>
    rw [ensure_of_serves hs]
    exact .refl
  | false =>
    have hdiscard : d.Confined (fun c => c.handlesSets = true) (b.discard order.owner d).2 :=
      (b.confined_discard order.owner d).mono fun c hc => by
        rw [Call.handlesSets, hc, Bool.or_true]
    rw [ensure_of_not_serves hs]
    cases order.layout caps with
    | error failure => exact hdiscard
    | ok layout =>
      have hmake := BufferSet.confined_make order layout (b.discard order.owner d).2
      dsimp only
      rcases hm : BufferSet.make order layout (b.discard order.owner d).2 with ⟨_ | _, e⟩
      all_goals
        rw [hm] at hmake
        exact hdiscard.trans hmake

end Backing

end Compositor
