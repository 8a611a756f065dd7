import Compositor.Proofs.Device.Attaching
import Compositor.Proofs.Device.Writing
import Compositor.Proofs.Driver.Judging

/-!
# Names of what is gone

A deletion takes its object out of all bindings, but leaves it in the slots that it is attached to.
So what is bound is live, as long as calls name live objects only; and a slot whose image is deleted
is dead until an image is attached to it again, since no name is handed out twice.
-/

namespace Compositor

/-! ## What is bound -/

/-- Where an object is bound or in use. -/
inductive Place where
  | read
  | draw
  | texture (target : TextureTarget)
  | renderbuffer
  | program
deriving DecidableEq, Repr

/-- The kind of the objects that are bound in a place. -/
def Place.kind : Place → Kind
  | read | draw => .framebuffer
  | texture _ => .texture
  | renderbuffer => .renderbuffer
  | program => .program

namespace Bindings

/-- The object that is bound in a place. -/
def at? (b : Bindings) : Place → Option Handle
  | .read => b.read.map (·.handle)
  | .draw => b.draw.map (·.handle)
  | .texture target => (b.texture target).map (·.handle)
  | .renderbuffer => b.renderbuffer.map (·.handle)
  | .program => b.program.map (·.handle)

theorem kind_of_at? {b : Bindings} {place : Place} {x : Handle} (h : b.at? place = some x) :
    x.kind = place.kind := by
  cases place <;> obtain ⟨id, -, rfl⟩ := Option.map_eq_some_iff.mp h <;> rfl

theorem map_unbind {k : Kind} (bound : Option (ObjectId k)) (id : ObjectId k) :
    (if bound = some id then none else bound).map (·.handle) =
      if bound.map (·.handle) = some id.handle then none else bound.map (·.handle) := by
  cases bound with
  | none => simp
  | some other => by_cases h : other = id <;> simp [h]

end Bindings

namespace Call

/-- The object that a call binds, attaches to a framebuffer or puts to use. -/
def named? : Call → Option Handle
  | bindTexture _ id => id.map (·.handle)
  | bindFramebuffer _ id => id.map (·.handle)
  | bindRenderbuffer id => id.map (·.handle)
  | useProgram id => id.map (·.handle)
  | attachTexture _ _ id => some id.handle
  | attachRenderbuffer _ id => some id.handle
  | _ => none

variable {c : Call}

/-- A call that deletes nothing leaves a place as it is, or binds there what it names. -/
theorem at?_rebind (h : c.deletes? = none) (b : Bindings) (place : Place) :
    (c.rebind b).at? place = b.at? place ∨ (c.rebind b).at? place = c.named? := by
  cases c with
  | bindTexture target id =>
    cases place with
    | texture other =>
      cases target <;> cases other <;> first | exact Or.inl rfl | exact Or.inr rfl
    | _ => cases target <;> exact Or.inl rfl
  | bindFramebuffer target id =>
    cases target <;> cases place <;> first | exact Or.inl rfl | exact Or.inr rfl
  | bindRenderbuffer id =>
    cases place with
    | renderbuffer => exact Or.inr rfl
    | _ => exact Or.inl rfl
  | useProgram id =>
    cases place with
    | program => exact Or.inr rfl
    | _ => exact Or.inl rfl
  | deleteTexture id => cases h
  | deleteFramebuffer id => cases h
  | deleteRenderbuffer id => cases h
  | deleteProgram id => cases h
  | _ => exact Or.inl rfl

/-- A deletion takes its object out of every place. -/
theorem at?_rebind_of_deletes {x : Handle} (h : c.deletes? = some x) (b : Bindings)
    (place : Place) :
    (c.rebind b).at? place = if b.at? place = some x then none else b.at? place := by
  have elsewhere (hk : x.kind ≠ place.kind) (hsame : (c.rebind b).at? place = b.at? place) :
      (c.rebind b).at? place = if b.at? place = some x then none else b.at? place := by
    rw [hsame, if_neg fun hat => hk (Bindings.kind_of_at? hat)]
  cases c with
  | deleteTexture id =>
    cases h
    cases place with
    | texture target => cases target <;> exact Bindings.map_unbind ..
    | _ => exact elsewhere nofun rfl
  | deleteFramebuffer id =>
    cases h
    cases place with
    | read => exact Bindings.map_unbind ..
    | draw => exact Bindings.map_unbind ..
    | _ => exact elsewhere nofun rfl
  | deleteRenderbuffer id =>
    cases h
    cases place with
    | renderbuffer => exact Bindings.map_unbind ..
    | _ => exact elsewhere nofun rfl
  | deleteProgram id =>
    cases h
    cases place with
    | program => exact Bindings.map_unbind ..
    | _ => exact elsewhere nofun rfl
  | deleteShader id =>
    cases h
    exact elsewhere (by cases place <;> exact nofun) rfl
  | _ => cases h

end Call

/-- The object that is bound, attached to a framebuffer or put to use by what happens. -/
def Incident.named? : Incident → Option Handle
  | .call c => c.named?
  | _ => none

open Objects

namespace Driver

variable {d : Driver} {c : Call} {id : FramebufferId} {slot : Attachment} {image : Image}

/-- What is bound is live, and what is attached has a name that was handed out. -/
structure Grounded (d : Driver) : Prop where
  bound : ∀ place x, d.bindings.at? place = some x → d.objects.Live x
  attached : ∀ id slot image, d.slot? id slot = some image →
    image.handle.name ≤ d.objects.issued

/-- Nothing is bound or attached where there is nothing. -/
theorem grounded_of_bare {issued : Nat} (hb : d.bindings = ⟨none, none, none, none, none, none⟩)
    (ho : d.objects = .emptyAfter issued) : d.Grounded where
  bound place x hx := by
    rw [hb] at hx
    cases place with
    | texture target => cases target <;> cases hx
    | _ => cases hx
  attached id slot image hi := by
    rw [slot?, ho] at hi
    cases hi

theorem slot?_attach {other : Attachment} {put : Image}
    (h : (d.attach other put).slot? id slot = some image) :
    d.slot? id slot = some image ∨ put = image := by
  obtain ⟨f, hf, hslot⟩ := Option.bind_eq_some_iff.mp h
  rw [framebuffers_get?_attach] at hf
  split at hf
  · obtain ⟨g, hg, rfl⟩ := Option.map_eq_some_iff.mp hf
    rw [Framebuffer.slot_attach] at hslot
    split at hslot
    · exact Or.inr (Option.some.inj hslot)
    · exact Or.inl (Option.bind_eq_some_iff.mpr ⟨g, hg, hslot⟩)
  · exact Or.inl (Option.bind_eq_some_iff.mpr ⟨f, hf, hslot⟩)

/-- What is in a slot after a call was there before, or is what the call names. -/
theorem slot?_perform (h : (d.perform c).slot? id slot = some image) :
    d.slot? id slot = some image ∨ c.named? = some image.handle := by
  by_cases ht : d.target? c = some id.handle
  · cases c with
    | attachTexture other target texture =>
      exact (slot?_attach h).imp_right fun hput => by rw [← hput]; rfl
    | attachRenderbuffer other renderbuffer =>
      exact (slot?_attach h).imp_right fun hput => by rw [← hput]; rfl
    | deleteFramebuffer other =>
      obtain ⟨f, hf, -⟩ := Option.bind_eq_some_iff.mp h
      have hgone : (d.perform (.deleteFramebuffer other)).objects.stored? id.handle = none := by
        rw [stored?_perform_of_deletes (c := .deleteFramebuffer other) ht, if_pos rfl]
      rw [stored?_framebuffer, hf] at hgone
      cases hgone
    | create what =>
      -- a new framebuffer has nothing in its slots
      obtain ⟨f, hf, hslot⟩ := Option.bind_eq_some_iff.mp h
      have hid : id.handle = ⟨what.kind, d.objects.issued + 1⟩ := (Option.some.inj ht).symm
      have hmade := d.stored?_perform_create what id.handle
      rw [if_pos hid, stored?_framebuffer, hf] at hmade
      cases what with
      | framebuffer =>
        cases hmade
        cases slot <;> cases hslot
      | _ => cases hid
    | _ => simp [target?, ObjectId.handle] at ht
  · refine Or.inl ?_
    rwa [slot?, framebuffers_get?_of_outline (outline?_perform ht)] at h

theorem Grounded.perform (h : d.Grounded) (hr : d.objects.Regular)
    (hn : ∀ x ∈ c.named?, d.objects.Live x) : (d.perform c).Grounded where
  bound place x hx := by
    rw [bindings_perform_eq] at hx
    cases hd : c.deletes? with
    | none =>
      have hlive : d.objects.Live x := by
        obtain hsame | hnamed := Call.at?_rebind hd d.bindings place
        · exact h.bound place x (hsame ▸ hx)
        · exact hn x (hnamed ▸ hx)
      exact live_perform (by rw [hd]; exact nofun) hlive
    | some y =>
      rw [Call.at?_rebind_of_deletes hd] at hx
      split at hx
      · cases hx
      · rename_i hne
        refine live_perform (fun he => hne ?_) (h.bound place x hx)
        rw [hx, ← he, hd]
  attached id slot image hi := by
    have hname : image.handle.name ≤ d.objects.issued := by
      obtain hbefore | hnamed := slot?_perform hi
      · exact h.attached id slot image hbefore
      · exact hr.name_le _ (hn _ hnamed)
    exact Nat.le_trans hname (d.edits_perform c).issued_le

/-! ## Slots whose image is gone -/

/-- The framebuffer is gone, or the image in its slot is. Their names were handed out, so that
neither comes to life again. -/
structure Spoiled (d : Driver) (id : FramebufferId) (slot : Attachment) : Prop where
  issued : id.name ≤ d.objects.issued
  gone : ∀ f, d.objects.framebuffers.get? id = some f →
    ∃ image, f.slot slot = some image ∧ image.handle.name ≤ d.objects.issued ∧
      ¬ d.objects.Live image.handle

/-- The deletion of an image spoils the slots that it is attached to. -/
theorem spoiled_perform (h : d.Grounded) (hr : d.objects.Regular)
    (hi : d.slot? id slot = some image) (hc : c.deletes? = some image.handle) :
    (d.perform c).Spoiled id slot := by
  have hissued : d.objects.issued ≤ (d.perform c).objects.issued := (d.edits_perform c).issued_le
  obtain ⟨f, hf, hslot⟩ := Option.bind_eq_some_iff.mp hi
  have hlive : d.objects.Live id.handle := by
    rw [Live, stored?_framebuffer, hf]
    exact Option.some_ne_none _
  have hkept : (d.perform c).objects.framebuffers.get? id = d.objects.framebuffers.get? id := by
    refine framebuffers_get?_congr ?_
    rw [stored?_perform_of_deletes hc, if_neg]
    cases image <;> exact ObjectId.handle_ne _ _ (by decide)
  refine ⟨Nat.le_trans (hr.name_le _ hlive) hissued, fun g hg => ?_⟩
  obtain rfl : f = g := Option.some.inj (hf.symm.trans (hkept.symm.trans hg))
  refine ⟨image, hslot, Nat.le_trans (h.attached id slot image hi) hissued,
    fun himage => himage ?_⟩
  rw [stored?_perform_of_deletes hc, if_pos rfl]

/-- No framebuffer is complete with a spoiled slot. -/
theorem Spoiled.status_ne (h : d.Spoiled id slot) (hd : d.bindings.draw = some id)
    (hp : d.pretence.status = none) : d.status ≠ .complete := by
  simp only [status, hd, hp]
  cases hf : d.objects.framebuffers.get? id with
  | none => simp
  | some f =>
    obtain ⟨image, hslot, -, hdead⟩ := h.gone f hf
    intro hcomplete
    obtain ⟨-, e, hall⟩ := status_eq_complete_iff.mp hcomplete
    exact hdead (hall slot image hslot).live

theorem Spoiled.not_live (h : d.Spoiled id slot) (hd : d.bindings.draw = some id)
    (hi : d.drawImage? slot = some image) : ¬ d.objects.Live image.handle := by
  rw [drawImage?, hd, Option.bind_some] at hi
  obtain ⟨f, hf, hslot⟩ := Option.bind_eq_some_iff.mp hi
  obtain ⟨other, hother, -, hdead⟩ := h.gone f hf
  obtain rfl : other = image := Option.some.inj (hother.symm.trans hslot)
  exact hdead

end Driver

/-! ## Painting a slot whose image is gone -/

/-- The planes but for the one that goes to a slot. -/
def Planes.without (p : Planes) : Attachment → Planes
  | .color => { p with color := false }
  | .depth => { p with depth := false }
  | .stencil => { p with stencil := false }

/-- A painting call but for what it paints in a slot. -/
def Call.sparing (slot : Attachment) : Call → Call
  | clear planes => clear (planes.without slot)
  | copy source target planes filter => copy source target (planes.without slot) filter
  | drawStrip streams count => drawStrip (if slot = .color then [] else streams) count
  | c => c

theorem Call.paints_sparing (c : Call) (slot : Attachment) :
    (c.sparing slot).paints = c.paints := by
  cases c <;> rfl

namespace Driver

variable {d : Driver} {c : Call} {slot : Attachment}

/-- The coat of the sparing call is the same but for the plane of the slot. -/
theorem over_coat_sparing (d : Driver) (c : Call) {takes : Attachment → Bool}
    (h : takes slot = false) (fill : Fill) :
    (d.coat (c.sparing slot)).over takes fill = (d.coat c).over takes fill := by
  cases c with
  | clear planes => cases slot <;> simp [Call.sparing, Planes.without, coat, Coat.over, h]
  | copy source target planes filter =>
    cases slot <;> simp [Call.sparing, Planes.without, coat, Coat.over, h]
  | drawStrip streams count => cases slot <;> simp [Call.sparing, coat, Coat.over, h]
  | _ => rfl

/-- What a call paints in a slot whose image is gone goes nowhere. -/
theorem perform_sparing (hd : d.bindings.draw ≠ none)
    (hdead : ∀ image, d.drawImage? slot = some image → ¬ d.objects.Live image.handle)
    (hc : c.paints = true) :
    (∀ x, (d.perform c).objects.stored? x = (d.perform (c.sparing slot)).objects.stored? x) ∧
      (d.perform c).display = (d.perform (c.sparing slot)).display := by
  have hpaint := d.repaints_perform hc
  have hspare := d.repaints_perform ((c.paints_sparing slot).trans hc)
  refine ⟨fun x => ?_, ?_⟩
  · rw [hpaint.stored, hspare.stored]
    cases hx : d.objects.stored? x with
    | none => rfl
    | some s =>
      have htakes : d.takes x slot = false := by
        by_contra htakes
        obtain ⟨image, hi, rfl⟩ : ∃ image, d.drawImage? slot = some image ∧ image.handle = x := by
          simpa [takes, Option.any_eq_true] using htakes
        exact hdead image hi (by rw [Live, hx]; exact Option.some_ne_none s)
      rw [funext (d.over_coat_sparing c htakes)]
  · rw [d.display_perform_offscreen _ hd, d.display_perform_offscreen _ hd]

end Driver

namespace Device

variable {d : Device} {i : Incident} {id : FramebufferId} {slot : Attachment}

theorem grounded_undergo (h : d.driver.Grounded) (hr : d.driver.objects.Regular)
    (hn : ∀ x ∈ i.named?, d.Live x) : (d.undergo i).driver.Grounded := by
  cases i with
  | call c => exact h.perform hr hn
  | attempt what =>
    rcases ha : d.attempt what with ⟨failure | name, e⟩
    · rwa [undergo, ha, (attempt_error ha).2.2.1]
    · rw [undergo, ha, (attempt_ok ha).2.1]
      exact h.perform hr fun x hx => by cases hx
  | compile shader source =>
    obtain ⟨during, after, he⟩ := d.compile_driver shader source
    have hduring : Driver.Grounded
        { d.driver with pretence := { d.driver.pretence with failCompile := during } } :=
      ⟨h.bound, h.attached⟩
    have hcompiled := hduring.perform (c := .compile shader source) hr fun x hx => by cases hx
    rw [undergo, he]
    exact ⟨hcompiled.bound, hcompiled.attached⟩
  | loseContext => exact Driver.grounded_of_bare rfl rfl
  | setFaults faults => exact h
  | pretend pretence => exact ⟨h.bound, h.attached⟩
  | freshContext => exact ⟨h.bound, h.attached⟩

/-- A spoiled slot stays so until an image is attached to it. -/
theorem spoiled_undergo (h : d.driver.Spoiled id slot) (hi : ¬ d.Attaches id slot i) :
    (d.undergo i).driver.Spoiled id slot := by
  have hissued := d.issued_le_undergo i
  refine ⟨Nat.le_trans h.issued hissued, fun f hf => ?_⟩
  obtain ⟨g, hg, hslot⟩ := keepsSlot_undergo h.issued hi f hf
  obtain ⟨image, himage, hname, hdead⟩ := h.gone g hg
  exact ⟨image, hslot.trans himage, Nat.le_trans hname hissued,
    fun hl => hdead (live_of_undergo hname hl)⟩

/-- As long as a new device is told to bind, attach and use live objects only, all that is bound is
live. And once an image is deleted that is in a slot of a framebuffer, that framebuffer is not
complete, and what is painted in that slot goes nowhere, until something is attached to it again:
whatever else happens, and whatever is made. -/
theorem grounded_of_incidents (profile : Profile) (is : List Incident)
    (h : ∀ step ∈ trail undergo (create profile) is, ∀ x ∈ step.2.named?, step.1.Live x) :
    let d := is.foldl undergo (create profile)
    (∀ place x, d.driver.bindings.at? place = some x → d.Live x) ∧
    ∀ id slot image (c : Call) (later : List Incident),
      d.driver.slot? id slot = some image → c.deletes? = some image.handle →
      (∀ step ∈ trail undergo (d.perform c) later, ¬ step.1.Attaches id slot step.2) →
      let e := later.foldl undergo (d.perform c)
      e.driver.bindings.draw = some id →
      (e.driver.pretence.status = none → e.driver.status ≠ .complete) ∧
      ∀ c : Call, c.paints = true →
        (∀ x, (e.perform c).driver.objects.stored? x =
          (e.perform (c.sparing slot)).driver.objects.stored? x) ∧
        (e.perform c).driver.display = (e.perform (c.sparing slot)).driver.display := by
  intro d
  have hnew : (create profile).driver.objects.Regular ∧ (create profile).driver.Grounded :=
    ⟨regular_emptyAfter 0, Driver.grounded_of_bare rfl rfl⟩
  obtain ⟨hr, hd⟩ : d.driver.objects.Regular ∧ d.driver.Grounded :=
    foldl_of_trail (P := fun d => d.driver.objects.Regular ∧ d.driver.Grounded)
      (fun d i hn hd => ⟨regular_undergo hd.1 i, grounded_undergo hd.2 hd.1 hn⟩) hnew h
  refine ⟨hd.bound, fun id slot image c later hi hc hlater => ?_⟩
  intro e hdraw
  have hspoiled : e.driver.Spoiled id slot :=
    foldl_of_trail (P := fun e => e.driver.Spoiled id slot)
      (fun d i hkeeps hspoiled => spoiled_undergo hspoiled hkeeps)
      (Driver.spoiled_perform hd hr hi hc) hlater
  have hoffscreen : e.driver.bindings.draw ≠ none := by rw [hdraw]; exact Option.some_ne_none id
  exact ⟨hspoiled.status_ne hdraw, fun c hc =>
    Driver.perform_sparing hoffscreen (fun image => hspoiled.not_live hdraw) hc⟩

/-- In its second context a device makes a framebuffer complete with a packed store in the depth and
the stencil slot, and deletes the store. A store that is made, bound and given storage later has a
name of its own: the framebuffer is not complete again, and a clear leaves the store alone. -/
theorem grounded_of_deleted_store :
    let is : List Incident := [.attempt .texture, .loseContext, .call (.create .texture),
      .call (.bindTexture .rectangle (some ⟨2⟩)), .call (.textureImage .rectangle ⟨4, 4⟩),
      .attempt .renderbuffer, .call (.bindRenderbuffer (some ⟨3⟩)),
      .call (.renderbufferStorage .depth24Stencil8 0 ⟨4, 4⟩), .call (.create .framebuffer),
      .call (.bindFramebuffer .both (some ⟨4⟩)), .call (.attachTexture .color .rectangle ⟨2⟩),
      .call (.attachRenderbuffer .depth ⟨3⟩), .call (.attachRenderbuffer .stencil ⟨3⟩)]
    let later : List Incident := [.attempt .renderbuffer,
      .call (.bindRenderbuffer (some ⟨5⟩)),
      .call (.renderbufferStorage .depth24Stencil8 0 ⟨4, 4⟩)]
    let d := is.foldl undergo (create .full)
    let e := later.foldl undergo (d.perform (.deleteRenderbuffer ⟨3⟩))
    d.Live ⟨.renderbuffer, 3⟩ ∧ d.driver.status = .complete ∧ e.driver.status ≠ .complete ∧
      (e.perform (.clear .depthStencil)).driver.objects.stored? ⟨.renderbuffer, 5⟩ =
        some (.renderbuffer ⟨some ⟨.depth24Stencil8, 0, ⟨4, 4⟩⟩, .fresh⟩) := by
  intro is later d e
  have hnamed : ∀ step ∈ trail undergo (create .full) is, ∀ x ∈ step.2.named?, step.1.Live x := by
    decide
  have hlater : ∀ step ∈ trail undergo (d.perform (.deleteRenderbuffer ⟨3⟩)) later,
      ¬ step.1.Attaches ⟨4⟩ .depth step.2 := by
    decide
  obtain ⟨hbound, hdead⟩ := grounded_of_incidents .full is hnamed
  obtain ⟨hstatus, hclear⟩ := hdead ⟨4⟩ .depth (.renderbuffer ⟨3⟩) (.deleteRenderbuffer ⟨3⟩) later
    rfl rfl hlater rfl
  obtain ⟨hstored, -⟩ := hclear (.clear .depthStencil) rfl
  exact ⟨hbound .renderbuffer _ rfl, rfl, hstatus rfl, (hstored _).trans rfl⟩

end Device

end Compositor
