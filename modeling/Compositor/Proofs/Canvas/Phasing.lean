import Compositor.Proofs.Buffer.Layout
import Compositor.Proofs.Buffer.Register
import Compositor.Proofs.Canvas.Mooring
import Compositor.Proofs.Device.Incident

/-!
# The phases of a buffer set

A backing is in one of five phases, three of which bear a set. Whatever is asked of a canvas about
its set, and whatever happens at the device meanwhile, the phase tells what there is: whether there
is a set, and which of its framebuffers counts as the screen. A set has images of some size, and its
two framebuffers have names of their own, so that the screen tells the phase as well. A register
that notes the set and the phase in two fields, written one by one, agrees with the backing after
every step.
-/

namespace Compositor

namespace BufferSet

variable {s : BufferSet} {order : Order} {layout : Layout} {d e : Device}

/-- The framebuffers of a new set are two objects. -/
theorem Made.framebuffer_ne (h : s.Made order layout d e) {m : MultisampleTarget}
    (hm : s.multisample = some m) : m.framebuffer ≠ s.framebuffer := by
  intro he
  have hshown := h.unpainted _ (s.framebuffer_mem_blueprint _)
  have hdrawn := h.unpainted _ (s.target_mem_blueprint _)
  have htarget : s.target = s.framebuffer := by simpa [target, hm] using he
  -- one of them has the texture attached, the other one a renderbuffer
  rw [htarget, hshown] at hdrawn
  simp [shownSlots, drawnSlots, drawnImage, hm] at hdrawn

end BufferSet

namespace Backing

/-- The set has images of some size and framebuffers that differ, and what is bound of it is a
framebuffer that it has. -/
structure Coherent (b : Backing) : Prop where
  size : ∀ set, b.set? = some set → set.layout.size.isEmpty = false
  framebuffers : ∀ set m, b.set? = some set → set.multisample = some m →
    m.framebuffer ≠ set.framebuffer
  focus : b.phase = .boundMultisample → ∀ set, b.set? = some set → set.multisample.isSome = true

variable {b b' : Backing} {set : BufferSet} {order : Order} {caps : Capabilities} {d e : Device}

theorem coherent_of_none (h : b.set? = none) : b.Coherent where
  size set hset := by
    rw [h] at hset
    cases hset
  framebuffers set m hset := by
    rw [h] at hset
    cases hset
  focus _ set hset := by
    rw [h] at hset
    cases hset

theorem focusOn_of_none (h : b.set? = none) (focus : Focus) : b.focusOn focus = b := by
  cases b <;> cases h <;> rfl

namespace Coherent

/-- What was bound of the set is noted. -/
theorem focusOn (h : b.Coherent) {focus : Focus}
    (hf : ∀ set, b.set? = some set → focus = .multisample → set.multisample.isSome = true) :
    (b.focusOn focus).Coherent where
  size := by
    rw [set?_focusOn]
    exact h.size
  framebuffers := by
    rw [set?_focusOn]
    exact h.framebuffers
  focus hp set hset := by
    rw [set?_focusOn] at hset
    refine hf set hset ?_
    cases b with
    | ready old was => cases focus <;> first | rfl | cases hp
    | _ => cases hset

/-- A set is ensured, or there is none. -/
theorem ensure (h : b.Coherent) (hd : d.driver.objects.Regular) {result : Except Failure Unit}
    (he : b.ensure order caps d = (result, b', e)) : b'.Coherent := by
  cases hs : b.serves order with
  | true =>
    rw [ensure_of_serves hs] at he
    cases he
    exact h
  | false =>
    cases result with
    | error failure => exact coherent_of_none (restored_of_ensure hd he).1
    | ok =>
      obtain ⟨layout, set, hl, rfl, hmade⟩ := made_of_ensure hd hs he
      refine ⟨fun set' hset => ?_, fun set' m hset hm => ?_, nofun⟩
      · cases hset
        rw [hmade.layout]
        exact Capabilities.not_isEmpty_of_imageSize? (Order.layout_ok hl).2.1
      · cases hset
        exact hmade.framebuffer_ne hm

end Coherent

/-- The phase of a backing tells all that can be asked of it. -/
structure Accords (b : Backing) : Prop where
  set : b.set?.isSome = true ↔
    b.phase = .created ∨ b.phase = .boundMultisample ∨ b.phase = .boundColor
  multisample : b.phase = .boundMultisample →
    ∃ set m, b.set? = some set ∧ set.multisample = some m
  width : b.size.width ≠ 0 ↔ b.set?.isSome = true
  height : b.size.height ≠ 0 ↔ b.set?.isSome = true
  texture : b.texture?.isSome = b.set?.isSome
  screen : b.screen?.isSome = b.set?.isSome
  multisampleScreen : ∀ set m, b.set? = some set → set.multisample = some m →
    (b.screen? = some m.framebuffer ↔ b.phase = .boundMultisample)
  colorScreen : ∀ set, b.set? = some set →
    (b.screen? = some set.framebuffer ↔ b.phase ≠ .boundMultisample)

theorem isSome_set?_iff (b : Backing) : b.set?.isSome = true ↔
    b.phase = .created ∨ b.phase = .boundMultisample ∨ b.phase = .boundColor := by
  cases b with
  | ready set focus => cases focus <;> simp [set?, phase]
  | _ => simp [set?, phase]

theorem Coherent.accords (h : b.Coherent) : b.Accords := by
  cases b with
  | ready set focus =>
    have hsize := h.size set rfl
    simp only [Size.isEmpty, Bool.or_eq_false_iff, decide_eq_false_iff_not] at hsize
    have hframebuffers (m : MultisampleTarget) (hm : set.multisample = some m) :
        m.framebuffer ≠ set.framebuffer := h.framebuffers set m rfl hm
    refine ⟨isSome_set?_iff _, fun hp => ?_, by simp [Backing.size, set?, hsize.1],
      by simp [Backing.size, set?, hsize.2], rfl, ?_, fun set' m hset hm => ?_,
      fun set' hset => ?_⟩
    · obtain ⟨m, hm⟩ := Option.isSome_iff_exists.mp (h.focus hp set rfl)
      exact ⟨set, m, rfl, hm⟩
    · cases focus <;> rfl
    · cases hset
      have hne := (hframebuffers m hm).symm
      cases focus <;> simp [screen?, phase, BufferSet.target, hm, hne]
    · cases hset
      cases focus with
      | multisample =>
        obtain ⟨m, hm⟩ := Option.isSome_iff_exists.mp (h.focus rfl set rfl)
        simp [screen?, phase, BufferSet.target, hm, hframebuffers m hm]
      | _ => simp [screen?, phase]
  | _ =>
    refine ⟨isSome_set?_iff _, fun hp => ?_, ?_, ?_, rfl, rfl, fun set' m hset => ?_,
      fun set' hset => ?_⟩
    · cases hp
    · simp [Backing.size, set?]
    · simp [Backing.size, set?]
    · cases hset
    · cases hset

/-- A backing is set back to its beginning only where its set belongs to a context other than that
of the order. -/
theorem incompatible_of_phase_ensure (h : (b.ensure order caps d).2.1.phase = .uninitialized)
    (hb : b.phase ≠ .uninitialized) :
    ∃ set, b.set? = some set ∧ set.order.owner.compatible order.owner = false := by
  cases hs : b.serves order with
  | true =>
    rw [ensure_of_serves hs] at h
    exact absurd h hb
  | false =>
    -- only what is given up beforehand can be forgotten; after that a set is made or is not
    have hdiscard : (b.discard order.owner d).1.phase = .uninitialized := by
      rw [ensure_of_not_serves hs] at h
      split at h
      · exact h
      · split at h <;> cases h
    unfold discard at hdiscard
    split at hdiscard
    · exact absurd hdiscard hb
    · rename_i set hset
      refine ⟨set, hset, ?_⟩
      split at hdiscard
      · cases b <;> cases hset
        cases hdiscard
      · rename_i hc
        exact eq_false_of_ne_true hc

end Backing

namespace Canvas

/-! ## What is asked of a canvas about its set -/

/-- What concerns the set of a canvas: what the canvas is asked for, and what happens at its device
meanwhile. -/
inductive Handling where
  | ensure (order : Order) (caps : Capabilities)
  | destroy
  | invalidate
  | beginFrame
  | endFrame (surface : Size) (context : Context)
  | readback
  | undergo (incident : Incident)

/-- The canvas after it was handled. -/
def handle (c : Canvas) : Handling → Canvas
  | .ensure order caps => (c.ensure order caps).2
  | .destroy => c.destroy
  | .invalidate => c.invalidate
  | .beginFrame => c.beginFrame
  | .endFrame surface context => c.endFrame surface context
  | .readback => c.readback.2
  | .undergo incident => { c with device := c.device.undergo incident }

variable {c : Canvas}

/-- A frame begins with the focus on the framebuffer that it is drawn to. -/
theorem backing_beginFrame {set : BufferSet} (hset : c.backing.set? = some set) :
    c.beginFrame.backing =
      c.backing.focusOn (if set.multisample.isSome then .multisample else .color) := by
  unfold beginFrame
  rw [hset]

theorem backing_resolve (c : Canvas) (set : BufferSet) : (c.resolve set).backing = c.backing := by
  unfold resolve
  split <;> rfl

/-- A frame ends with the focus on the framebuffer of the texture. -/
theorem backing_endFrame (c : Canvas) (surface : Size) (context : Context) :
    (c.endFrame surface context).backing = c.backing.focusOn .color := by
  cases hset : c.backing.set? with
  | none => rw [endFrame_of_none hset, Backing.focusOn_of_none hset]
  | some set =>
    have hpresent : (c.present set surface context).2.backing = c.backing := by
      rw [present, backing_countDone, backing_drawPatch]
      exact backing_resolve c set
    rw [endFrame_of_set hset, ← hpresent]
    rfl

theorem backing_readback (c : Canvas) : c.readback.2.backing = c.backing.focusOn .color := by
  cases hset : c.backing.set? with
  | none =>
    rw [readback_of_none hset]
    exact (Backing.focusOn_of_none hset _).symm
  | some set =>
    rw [readback_of_set hset]
    exact congrArg (Backing.focusOn · .color) (backing_resolve c set)

end Canvas

/-! ## What is noted of it -/

namespace Register

open Canvas

/-- The register after the set of a canvas was handled whose device is `d`. Without a set nothing is
bound, so nothing is noted. -/
def handle (r : Register) (d : Device) : Handling → Register
  | .ensure order caps => (r.ensure order caps d).2.1
  | .destroy => (r.destroy d).1
  | .invalidate => r.invalidate
  | .beginFrame =>
    match r.set? with
    | none => r
    | some set => r.markBound set.multisample.isSome
  | .endFrame .. | .readback =>
    match r.set? with
    | none => r
    | some _ => r.markBound false
  | .undergo _ => r

/-- The register after the canvas was handled step by step. -/
def follow (r : Register) (c : Canvas) : List Handling → Register
  | [] => r
  | step :: steps => (r.handle c.device step).follow (c.handle step) steps

/-- The register has the fields of a backing, and the same is read off them. -/
structure Agrees (r : Register) (b : Backing) : Prop where
  set : r.set? = b.set?
  phase : r.phase = b.phase
  size : r.size = b.size
  texture : r.texture? = b.texture?
  screen : r.screen? = b.screen?

theorem agrees_register (b : Backing) : b.register.Agrees b :=
  ⟨rfl, rfl, rfl, rfl, b.screen?_register⟩

end Register

namespace Canvas

variable {c : Canvas}

/-- Each step leaves the fields of the backing that it leaves. -/
theorem handle_register (c : Canvas) (step : Handling) :
    c.backing.register.handle c.device step = (c.handle step).backing.register := by
  have hfields : c.backing.register.set? = c.backing.set? := rfl
  -- a frame that ends and a readback note the framebuffer of the texture
  have hcolor : (match c.backing.register.set? with
      | none => c.backing.register
      | some _ => c.backing.register.markBound false) = (c.backing.focusOn .color).register := by
    rw [hfields]
    cases hset : c.backing.set? with
    | none => rw [Backing.focusOn_of_none hset]
    | some set => exact c.backing.markBound_register false
  cases step with
  | ensure order caps =>
    show (c.backing.register.ensure order caps c.device).2.1 = _
    rw [c.backing.ensure_register]
    rfl
  | destroy =>
    show (c.backing.register.destroy c.device).1 = _
    rw [c.backing.destroy_register]
    rfl
  | invalidate => rfl
  | beginFrame =>
    show (match c.backing.register.set? with
      | none => c.backing.register
      | some set => c.backing.register.markBound set.multisample.isSome) =
        c.beginFrame.backing.register
    rw [hfields]
    cases hset : c.backing.set? with
    | none =>
      unfold Canvas.beginFrame
      rw [hset]
    | some set =>
      rw [backing_beginFrame hset]
      exact c.backing.markBound_register _
  | endFrame surface context =>
    refine hcolor.trans ?_
    rw [← c.backing_endFrame surface context]
    rfl
  | readback =>
    refine hcolor.trans ?_
    rw [← c.backing_readback]
    rfl
  | undergo incident => rfl

/-- So does a whole history. -/
theorem follow_register (c : Canvas) (steps : List Handling) :
    c.backing.register.follow c steps = (steps.foldl handle c).backing.register := by
  induction steps generalizing c with
  | nil => rfl
  | cons step steps ih =>
    rw [Register.follow, handle_register, ih]
    rfl

/-! ## What holds throughout -/

/-- The objects of the device are regular and the backing is coherent. -/
structure Handled (c : Canvas) : Prop where
  regular : c.device.driver.objects.Regular
  coherent : c.backing.Coherent

/-- Every handling keeps what is known of the device and the backing. -/
theorem Handled.handle (h : c.Handled) (step : Handling) : (c.handle step).Handled := by
  have hr := h.regular
  cases step with
  | ensure order caps =>
    rcases he : c.backing.ensure order caps c.device with ⟨result, b', e⟩
    have hcanvas : (c.ensure order caps).2 = { c with backing := b', device := e } := by
      rw [Canvas.ensure, he]
    rw [Canvas.handle, hcanvas]
    exact ⟨Backing.regular_ensure hr he, h.coherent.ensure hr he⟩
  | destroy =>
    exact ⟨(c.backing.drops_destroy c.device).1.edits.regular hr,
      Backing.coherent_of_none (c.backing.set?_destroy c.device)⟩
  | invalidate => exact ⟨hr, Backing.coherent_of_none rfl⟩
  | beginFrame =>
    refine ⟨(idles_beginFrame hr).grows.regular hr, ?_⟩
    show c.beginFrame.backing.Coherent
    cases hset : c.backing.set? with
    | none =>
      unfold Canvas.beginFrame
      rw [hset]
      exact h.coherent
    | some set =>
      rw [backing_beginFrame hset]
      refine h.coherent.focusOn fun set' hset' hm => ?_
      rw [hset] at hset'
      cases hset'
      by_contra hnot
      rw [if_neg hnot] at hm
      cases hm
  | endFrame surface context =>
    obtain ⟨new, hw⟩ := works_endFrame hr surface context
    refine ⟨hw.grows.regular hr, ?_⟩
    show (c.endFrame surface context).backing.Coherent
    rw [backing_endFrame]
    exact h.coherent.focusOn fun _ _ hm => nomatch hm
  | readback =>
    refine ⟨(idles_readback hr).grows.regular hr, ?_⟩
    show c.readback.2.backing.Coherent
    rw [backing_readback]
    exact h.coherent.focusOn fun _ _ hm => nomatch hm
  | undergo incident => exact ⟨Device.regular_undergo hr incident, h.coherent⟩

/-- Only two steps set a backing back to its beginning. -/
theorem cause_of_phase_handle {step : Handling} (h : (c.handle step).backing.phase = .uninitialized)
    (hc : c.backing.phase ≠ .uninitialized) :
    step = .invalidate ∨ ∃ order caps set, step = .ensure order caps ∧
      c.backing.set? = some set ∧ set.order.owner.compatible order.owner = false := by
  -- a focus that is noted does not take a set away
  have hfocus (focus : Focus) (hf : (c.backing.focusOn focus).phase = .uninitialized) : False := by
    refine hc ?_
    cases hb : c.backing with
    | ready set was =>
      rw [hb] at hf
      cases focus <;> cases hf
    | _ =>
      rw [hb] at hf
      exact hf
  cases step with
  | ensure order caps =>
    obtain ⟨set, hset, howner⟩ := Backing.incompatible_of_phase_ensure h hc
    exact Or.inr ⟨order, caps, set, rfl, hset, howner⟩
  | destroy =>
    have hd : (c.backing.destroy c.device).1.phase = .uninitialized := h
    cases hb : c.backing with
    | uninitialized => exact absurd (congrArg Backing.phase hb) hc
    | _ =>
      rw [hb] at hd
      cases hd
  | invalidate => exact Or.inl rfl
  | beginFrame =>
    have hbegin : c.beginFrame.backing.phase = .uninitialized := h
    cases hset : c.backing.set? with
    | none =>
      unfold Canvas.beginFrame at hbegin
      rw [hset] at hbegin
      exact absurd hbegin hc
    | some set =>
      rw [backing_beginFrame hset] at hbegin
      exact (hfocus _ hbegin).elim
  | endFrame surface context =>
    have hend : (c.endFrame surface context).backing.phase = .uninitialized := h
    rw [backing_endFrame] at hend
    exact (hfocus _ hend).elim
  | readback =>
    have hread : c.readback.2.backing.phase = .uninitialized := h
    rw [backing_readback] at hread
    exact (hfocus _ hread).elim
  | undergo incident => exact absurd h hc

/-- Throughout every history of a canvas the phase of its backing tells all that can be asked of it,
and the backing is set back to its beginning only as its set is forgotten or as one is ordered for
another context. A register that writes the set and the phase one by one agrees with the backing all
along, so that it notes a set just in the three phases that bear one. -/
theorem accords_of_handling (profile : Profile) (steps : List Handling) :
    let c := steps.foldl handle (create profile)
    let r := Register.start.follow (create profile) steps
    c.backing.Accords ∧
      (∀ step, (c.handle step).backing.phase = .uninitialized →
        c.backing.phase ≠ .uninitialized →
        step = .invalidate ∨ ∃ order caps set, step = .ensure order caps ∧
          c.backing.set? = some set ∧ set.order.owner.compatible order.owner = false) ∧
      r.Agrees c.backing ∧
      (r.set?.isSome = true ↔
        r.phase = .created ∨ r.phase = .boundMultisample ∨ r.phase = .boundColor) := by
  intro c r
  have hstart : (create profile).Handled :=
    ⟨Objects.regular_emptyAfter 0, Backing.coherent_of_none rfl⟩
  have hhandled : c.Handled := List.foldlRecOn steps _ hstart fun _ h step _ => h.handle step
  have hr : r = c.backing.register := (create profile).follow_register steps
  have hagrees : r.Agrees c.backing := by
    rw [hr]
    exact Register.agrees_register c.backing
  refine ⟨hhandled.coherent.accords, fun _ => cause_of_phase_handle, hagrees, ?_⟩
  rw [hagrees.set, hagrees.phase]
  exact c.backing.isSome_set?_iff

/-- A frame has begun on a set of several samples when one is ordered for another context, where no
several samples can be had: the set is forgotten, and there is no other. -/
theorem accords_of_refused_order :
    let order (context : Context) : Order := .ofQuality ⟨4, 4⟩ 4 context
    let steps : List Handling := [.ensure (order (.live 1)) Profile.full.capabilities, .beginFrame]
    let c := steps.foldl handle (create .full)
    let forgotten := c.handle (.ensure (order (.live 2)) .none)
    c.backing.Accords ∧ c.backing.phase = .boundMultisample ∧
      forgotten.backing.phase = .uninitialized ∧
      ∃ set, c.backing.set? = some set ∧ set.order.owner.compatible (.live 2) = false := by
  intro order steps c forgotten
  obtain ⟨hbound, hforgotten⟩ : c.backing.phase = .boundMultisample ∧
      forgotten.backing.phase = .uninitialized := by decide +kernel
  obtain ⟨haccords, hcause, -⟩ := accords_of_handling .full steps
  rcases hcause _ hforgotten (by rw [hbound]; decide) with he | ⟨order', caps', set, he, hset, hc⟩
  · cases he
  · cases he
    exact ⟨haccords, hbound, hforgotten, set, hset, hc⟩

end Canvas

end Compositor
