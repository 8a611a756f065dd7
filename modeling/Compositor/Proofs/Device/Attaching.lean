import Compositor.Proofs.Device.Ledger

/-!
# Slots in the course of time

A slot of a framebuffer keeps its image until one is attached to it again, or the framebuffer goes.
That the image is live has no part in this: a deleted image stays where it was attached.
-/

namespace Compositor

/-- Whether a call attaches an image to a slot of what is drawn to. -/
def Call.attaches (slot : Attachment) : Call → Bool
  | attachTexture other _ _ | attachRenderbuffer other _ => other = slot
  | _ => false

theorem Framebuffer.slot_attach (f : Framebuffer) (image : Image) (slot other : Attachment) :
    (f.attach image slot).slot other = if slot = other then some image else f.slot other := by
  cases slot <;> cases other <;> rfl

namespace Objects

variable {o p : Objects} {id : FramebufferId} {slot : Attachment}

theorem framebuffers_get?_of_outline (h : p.outline? id.handle = o.outline? id.handle) :
    p.framebuffers.get? id = o.framebuffers.get? id := by
  have hinj : Function.Injective fun f : Framebuffer => (Stored.framebuffer f).outline :=
    fun _ _ he => Stored.framebuffer.inj he
  rw [outline?, outline?, stored?_framebuffer, stored?_framebuffer, Option.map_map,
    Option.map_map] at h
  exact Option.map_injective hinj h

/-- The framebuffer has what it had in a slot, unless it is gone. -/
def KeepsSlot (o p : Objects) (id : FramebufferId) (slot : Attachment) : Prop :=
  ∀ f, p.framebuffers.get? id = some f →
    ∃ g, o.framebuffers.get? id = some g ∧ f.slot slot = g.slot slot

theorem keepsSlot_of_outline (h : p.outline? id.handle = o.outline? id.handle) :
    o.KeepsSlot p id slot := by
  intro f hf
  rw [framebuffers_get?_of_outline h] at hf
  exact ⟨f, hf, rfl⟩

theorem keepsSlot_of_stored?_none (h : p.stored? id.handle = none) : o.KeepsSlot p id slot := by
  intro f hf
  rw [stored?_framebuffer, hf] at h
  cases h

end Objects

open Objects

namespace Driver

variable {d : Driver} {id : FramebufferId} {slot : Attachment}

/-- What an attachment makes of the framebuffers: one of them has another image in one slot. -/
theorem framebuffers_get?_attach (d : Driver) (slot : Attachment) (image : Image)
    (id : FramebufferId) : (d.attach slot image).objects.framebuffers.get? id =
      if d.bindings.draw = some id then
        (d.objects.framebuffers.get? id).map fun f => f.attach image slot
      else d.objects.framebuffers.get? id := by
  unfold attach
  cases hd : d.bindings.draw with
  | none => rfl
  | some bound =>
    dsimp only
    rw [Table.get?_modify]
    simp only [Option.some.injEq, eq_comm]

theorem keepsSlot_attach (other : Attachment) (image : Image)
    (h : other = slot → d.bindings.draw ≠ some id) :
    d.objects.KeepsSlot (d.attach other image).objects id slot := by
  intro f hf
  rw [framebuffers_get?_attach] at hf
  split at hf
  · rename_i hbound
    obtain ⟨g, hg, rfl⟩ := Option.map_eq_some_iff.mp hf
    exact ⟨g, hg, by rw [Framebuffer.slot_attach, if_neg fun he => h he hbound]⟩
  · exact ⟨f, hf, rfl⟩

/-- A framebuffer whose name was handed out keeps what it has in a slot under every call that does
not attach something to it. -/
theorem keepsSlot_perform {c : Call} (hid : id.name ≤ d.objects.issued)
    (h : c.attaches slot = true → d.bindings.draw ≠ some id) :
    d.objects.KeepsSlot (d.perform c).objects id slot := by
  by_cases ht : d.target? c = some id.handle
  · cases c with
    | attachTexture other target texture =>
      exact keepsSlot_attach _ _ fun hs => h (by rw [hs]; exact decide_eq_true rfl)
    | attachRenderbuffer other renderbuffer =>
      exact keepsSlot_attach _ _ fun hs => h (by rw [hs]; exact decide_eq_true rfl)
    | deleteFramebuffer other =>
      refine keepsSlot_of_stored?_none ?_
      rw [stored?_perform_of_deletes (c := .deleteFramebuffer other) ht, if_pos rfl]
    | create what =>
      have hname : d.objects.issued + 1 = id.name := congrArg Handle.name (Option.some.inj ht)
      omega
    | _ => simp [target?, ObjectId.handle] at ht
  · exact keepsSlot_of_outline (outline?_perform ht)

end Driver

namespace Device

variable {d : Device} {id : FramebufferId} {slot : Attachment}

/-- What happens attaches an image to a slot of the framebuffer. -/
def Attaches (d : Device) (id : FramebufferId) (slot : Attachment) : Incident → Prop
  | .call c => c.attaches slot = true ∧ d.driver.bindings.draw = some id
  | _ => False

instance (d : Device) (id : FramebufferId) (slot : Attachment) :
    (i : Incident) → Decidable (d.Attaches id slot i)
  | .call c =>
    inferInstanceAs (Decidable (c.attaches slot = true ∧ d.driver.bindings.draw = some id))
  | .attempt _ | .compile .. | .setFaults _ | .pretend _ | .freshContext | .loseContext =>
    inferInstanceAs (Decidable False)

theorem keepsSlot_undergo {i : Incident} (hid : id.name ≤ d.driver.objects.issued)
    (h : ¬ d.Attaches id slot i) :
    d.driver.objects.KeepsSlot (d.undergo i).driver.objects id slot := by
  cases i with
  | call c => exact Driver.keepsSlot_perform hid fun hc hd => h ⟨hc, hd⟩
  | attempt what =>
    rcases ha : d.attempt what with ⟨failure | name, e⟩
    · rw [undergo, ha, (attempt_error ha).2.2.1]
      exact keepsSlot_of_outline rfl
    · rw [undergo, ha, (attempt_ok ha).2.1]
      exact Driver.keepsSlot_perform hid fun hc => by cases hc
  | compile shader source =>
    exact keepsSlot_of_outline (d.outline_compile source (id.handle_ne shader (by decide)))
  | loseContext => exact keepsSlot_of_stored?_none (not_not.mp (not_live_emptyAfter _ _))
  | _ => exact keepsSlot_of_outline rfl

/-- Nothing comes to life under a name that was handed out. -/
theorem live_of_undergo {i : Incident} {x : Handle} (hx : x.name ≤ d.driver.objects.issued)
    (h : (d.undergo i).Live x) : d.Live x := by
  obtain hlive | hreturned := live_undergo h
  · exact hlive
  · have hname := (name_of_returned? hreturned).1
    omega

end Device

end Compositor
