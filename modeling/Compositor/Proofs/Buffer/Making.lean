import Compositor.Proofs.Buffer.Blueprint
import Compositor.Proofs.Device.Inventory

/-!
# Making a buffer set

What is known of a workbench at each step of making a set, whether the step succeeds or not.

`Workbench.Holds` is the invariant: the device holds what it held before and the parts made so far,
whose objects are listed one by one. Every step either goes on with a longer inventory or fails, and
it fails only where the device has an excuse: a creation is refused, or a status is pretended.
-/

namespace Compositor

open Numeric

/-! ## Promises of a step -/

namespace Build

variable {α β : Type}

/-- From the workbench `w` the step ends in `post` if it succeeds and in `fail` if it does not. -/
def Meets (m : Build α) (w : Workbench) (post : α → Workbench → Prop)
    (fail : Failure → Workbench → Prop) : Prop :=
  match m w with
  | (.ok a, w') => post a w'
  | (.error failure, w') => fail failure w'

variable {w : Workbench} {fail : Failure → Workbench → Prop}

theorem meets_pure {post : α → Workbench → Prop} {a : α} (h : post a w) :
    (pure a : Build α).Meets w post fail := h

theorem meets_bind {m : Build α} {f : α → Build β} {post : β → Workbench → Prop}
    (h : m.Meets w (fun a w' => (f a).Meets w' post fail) fail) :
    (m >>= f).Meets w post fail := by
  have he : (m >>= f) w = match m w with
      | (.ok a, w') => f a w'
      | (.error failure, w') => (.error failure, w') := by
    simp only [bind, ExceptT.bind, ExceptT.mk, StateT.bind]
    rcases m w with ⟨_ | _, w'⟩ <;> rfl
  unfold Meets at h ⊢
  rw [he]
  rcases hm : m w with ⟨_ | _, w'⟩ <;> simpa [hm] using h

theorem meets_tell {calls : List Call} {post : Unit → Workbench → Prop}
    (h : post () { w with device := w.device.performAll calls }) :
    (tell calls).Meets w post fail := h

theorem Meets.mono {m : Build α} {post post' : α → Workbench → Prop}
    (h : m.Meets w post fail) (hp : ∀ a w', post a w' → post' a w') : m.Meets w post' fail := by
  unfold Meets at h ⊢
  split
  · rename_i hm
    rw [hm] at h
    exact hp _ _ h
  · rename_i hm
    rwa [hm] at h

theorem meets_make {what : Creation} {part : ObjectId what.kind → Part}
    {post : ObjectId what.kind → Workbench → Prop}
    (h : ∀ name e, w.device.attempt what = (.ok name, e) → post ⟨name⟩ ⟨e, part ⟨name⟩ :: w.parts⟩)
    (hf : ∀ failure e, w.device.attempt what = (.error failure, e) →
      fail failure { w with device := e }) :
    (make what part).Meets w post fail := by
  unfold Meets make
  rcases ha : w.device.attempt what with ⟨failure | name, e⟩
  · exact hf failure e ha
  · exact h name e ha

theorem meets_get {post : Workbench → Workbench → Prop} (h : post w w) :
    (get : Build Workbench).Meets w post fail := h

theorem meets_throw {post : α → Workbench → Prop} {failure : Failure} (h : fail failure w) :
    (throw failure : Build α).Meets w post fail := h

theorem meets_check {post : Unit → Workbench → Prop}
    (h : w.device.driver.status.isComplete = true → post () w)
    (hf : w.device.driver.status.isComplete = false →
      fail (.framebufferIncomplete w.device.driver.status) w) :
    check.Meets w post fail := by
  unfold check
  refine meets_bind (meets_get ?_)
  cases hs : w.device.driver.status.isComplete with
  | true => simpa [hs] using meets_pure (h hs)
  | false => simpa [hs] using meets_throw (hf hs)

end Build

/-! ## Excuses -/

/-- Failures that the device itself brings about: a refused creation, or a status that it was told
to pretend. -/
inductive Device.Excuses (d : Device) : Failure → Prop where
  | refused (what : Creation) {n : Nat} :
    d.faults.refuses n = true → Excuses d (.driver ("refused " ++ what.kind.word))
  | pretended {status : Status} :
    d.driver.pretence.status = some status → status.isComplete = false →
      Excuses d (.framebufferIncomplete status)

theorem Device.Excuses.of_same {d e : Device} {failure : Failure} (h : e.Excuses failure)
    (hh : d.SameHost e) (hf : d.SameFrame e) : d.Excuses failure := by
  cases h with
  | refused what hr => exact .refused what (hh.faults ▸ hr)
  | pretended hs hc => exact .pretended (hf.pretence ▸ hs) hc

/-- The device refuses no creation and pretends no fault of a framebuffer. -/
structure Device.IsFaultless (d : Device) : Prop where
  grants : ∀ n, d.faults.refuses n = false
  honest : ∀ status, d.driver.pretence.status = some status → status.isComplete = true

theorem Device.IsFaultless.not_excuses {d : Device} (h : d.IsFaultless) (failure : Failure) :
    ¬ d.Excuses failure := by
  intro he
  cases he with
  | refused what hr =>
    rw [h.grants] at hr
    cases hr
  | pretended hs hc =>
    rw [h.honest _ hs] at hc
    cases hc

/-! ## The workbench -/

/-- The workbench after a call. -/
def Workbench.perform (w : Workbench) (c : Call) : Workbench :=
  { w with device := w.device.perform c }

/-- On the workbench are the objects of `base` and the parts made since, with the objects of the
inventory. But for these and for what is bound, the device is as it was. -/
structure Workbench.Holds (w : Workbench) (base : Device) (a : Inventory) (b : Bindings) :
    Prop where
  regular : base.driver.objects.Regular
  adds : base.Adds w.device a
  parts : w.parts.map Part.handle = a.handles
  issued : w.device.driver.objects.issued = base.driver.objects.issued + a.length
  bindings : w.device.driver.bindings = b
  frame : base.SameFrame w.device

/-- A step failed, with an excuse. -/
def Workbench.Fails (base : Device) (failure : Failure) (w : Workbench) : Prop :=
  base.Excuses failure ∧ ∃ a b, w.Holds base a b

namespace Workbench.Holds

variable {w : Workbench} {base : Device} {a : Inventory} {b : Bindings}

theorem start {d : Device} (hr : d.driver.objects.Regular) :
    Workbench.Holds ⟨d, []⟩ d [] d.driver.bindings :=
  ⟨hr, .refl d, rfl, rfl, rfl, .refl d⟩

/-- The names of the inventory were handed out. -/
theorem name_le (h : w.Holds base a b) {x : Handle} (hx : x ∈ a.handles) :
    x.name ≤ base.driver.objects.issued + a.length := by
  rw [← h.issued]
  exact (h.adds.grows.regular h.regular).name_le x ((h.adds.grows.live x).mpr (Or.inr hx))

theorem make (h : w.Holds base a b) {what : Creation} {name : Nat} {e : Device}
    (ha : w.device.attempt what = (.ok name, e)) {part : Part}
    (hp : part.handle = ⟨what.kind, name⟩) :
    Workbench.Holds ⟨e, part :: w.parts⟩ base
      ((⟨what.kind, name⟩, what.kind.store what.object) :: a) b := by
  obtain ⟨rfl, hd, -⟩ := Device.attempt_ok ha
  refine ⟨h.regular, h.adds.attempt h.regular ha, ?_, ?_, ?_, h.frame.trans ⟨?_, ?_, ?_, ?_⟩⟩
  · rw [List.map_cons, h.parts, hp]
    rfl
  · rw [hd, show w.device.driver.perform (.create what) = w.device.driver.make what from rfl,
      Driver.objects_make, Objects.issued_issue, h.issued, List.length_cons]
    omega
  · rw [hd, Driver.bindings_perform _ rfl, h.bindings]
  · rw [hd, Driver.pipeline_perform _ rfl]
  · rw [hd, Driver.display_perform _ rfl]
  · rw [hd, Driver.bindings_perform _ rfl]
  · rw [hd, Driver.pretence_perform]

theorem name_eq (h : w.Holds base a b) {what : Creation} {name : Nat} {e : Device}
    (ha : w.device.attempt what = (.ok name, e)) :
    name = base.driver.objects.issued + a.length + 1 := by
  rw [(Device.attempt_ok ha).1, h.issued]

/-- A refused creation fails with an excuse. -/
theorem refused (h : w.Holds base a b) {what : Creation} {failure : Failure} {e : Device}
    (ha : w.device.attempt what = (.error failure, e)) :
    Workbench.Fails base failure { w with device := e } := by
  obtain ⟨hr, rfl, hd, -⟩ := Device.attempt_error ha
  refine ⟨.refused what (n := w.device.creations) ?_, a, b, h.regular,
    h.adds.refused h.regular ha, h.parts, ?_, ?_, h.frame.trans ⟨?_, ?_, ?_, ?_⟩⟩
  · rwa [← h.adds.grows.host.faults]
  all_goals rw [hd]
  exacts [h.issued, h.bindings]

/-- A call that only binds. -/
theorem bind (h : w.Holds base a b) {c : Call} {b' : Bindings} (hq : c.isQuiet = true)
    (hp : c.paints = false) (hu : c.setsUniform = false) (hs : c.setsPipeline = false)
    (hg : c.setsProgram = false) (hb : (w.device.driver.perform c).bindings = b') :
    (w.perform c).Holds base a b' := by
  refine ⟨h.regular, h.adds.perform hq hp hu, h.parts, ?_, hb,
    h.frame.trans (w.device.sameFrame_perform hp hs hg)⟩
  exact (Driver.issued_perform _ (Call.creates?_of_isQuiet hq)).trans h.issued

theorem bindTexture (h : w.Holds base a b) (target : TextureTarget) (id : Option TextureId) :
    (w.perform (.bindTexture target id)).Holds base a (b.bindTexture id target) :=
  h.bind rfl rfl rfl rfl rfl (by rw [← h.bindings]; rfl)

theorem bindFramebuffer (h : w.Holds base a b) (target : FramebufferTarget)
    (id : Option FramebufferId) :
    (w.perform (.bindFramebuffer target id)).Holds base a (b.bindFramebuffer id target) :=
  h.bind rfl rfl rfl rfl rfl (by rw [← h.bindings]; rfl)

theorem bindRenderbuffer (h : w.Holds base a b) (id : Option RenderbufferId) :
    (w.perform (.bindRenderbuffer id)).Holds base a { b with renderbuffer := id } :=
  h.bind rfl rfl rfl rfl rfl (by rw [← h.bindings]; rfl)

theorem textureSampling (h : w.Holds base a b) (target : TextureTarget) (filter : Filter) :
    (w.perform (.textureSampling target filter)).Holds base a b :=
  h.bind rfl rfl rfl rfl rfl h.bindings

/-- A call that alters a part. -/
theorem alter (h : w.Holds base a b) {c : Call} {x : Handle} {f : Stored → Stored}
    (hc : w.device.driver.Alters c x f) (hx : x ∈ a.handles) (hp : c.paints = false)
    (hs : c.setsPipeline = false) (hb : c.setsBindings = false) :
    (w.perform c).Holds base (a.alter x f) b := by
  have hg : c.setsProgram = false := by cases c <;> first | rfl | cases hb
  refine ⟨h.regular, h.adds.alter hc hx, ?_, ?_, ?_,
    h.frame.trans (w.device.sameFrame_perform hp hs hg)⟩
  · rw [Inventory.handles_alter]
    exact h.parts
  · rw [Inventory.length_alter]
    exact (Driver.issued_perform _ hc.creates).trans h.issued
  · exact (Driver.bindings_perform _ hb).trans h.bindings

theorem textureImage (h : w.Holds base a b) (target : TextureTarget) (size : Size) {id : TextureId}
    (hb : b.texture target = some id) (hx : id.handle ∈ a.handles) :
    (w.perform (.textureImage target size)).Holds base
      (a.alter id.handle (Stored.mapObject .texture fun _ => ⟨some size, .fresh⟩)) b :=
  h.alter (Driver.alters_textureImage (by rw [h.bindings]; exact hb) size) hx rfl rfl rfl

theorem attachTexture (h : w.Holds base a b) (slot : Attachment) (target : TextureTarget)
    (id : TextureId) {fb : FramebufferId} (hb : b.draw = some fb) (hx : fb.handle ∈ a.handles) :
    (w.perform (.attachTexture slot target id)).Holds base
      (a.alter fb.handle (Stored.mapObject .framebuffer (·.attach (.texture id) slot))) b :=
  h.alter (Driver.alters_attachTexture (by rw [h.bindings]; exact hb) slot target id) hx rfl rfl rfl

theorem attachRenderbuffer (h : w.Holds base a b) (slot : Attachment) (id : RenderbufferId)
    {fb : FramebufferId} (hb : b.draw = some fb) (hx : fb.handle ∈ a.handles) :
    (w.perform (.attachRenderbuffer slot id)).Holds base
      (a.alter fb.handle (Stored.mapObject .framebuffer (·.attach (.renderbuffer id) slot))) b :=
  h.alter (Driver.alters_attachRenderbuffer (by rw [h.bindings]; exact hb) slot id) hx rfl rfl rfl

theorem renderbufferStorage (h : w.Holds base a b) (format : StorageFormat) (samples : Nat)
    (size : Size) {id : RenderbufferId} (hb : b.renderbuffer = some id)
    (hx : id.handle ∈ a.handles) :
    (w.perform (.renderbufferStorage format samples size)).Holds base
      (a.alter id.handle (Stored.mapObject .renderbuffer fun _ =>
        ⟨some ⟨format, min samples base.driver.profile.sampleLimit, size⟩, .fresh⟩)) b := by
  rw [← h.adds.grows.host.profile]
  exact h.alter
    (Driver.alters_renderbufferStorage (by rw [h.bindings]; exact hb) format samples size) hx rfl
    rfl rfl

/-- A later name is not in the inventory. -/
theorem alter_later (h : w.Holds base a b) {x : Handle}
    (hx : base.driver.objects.issued + a.length < x.name) (f : Stored → Stored) :
    a.alter x f = a := by
  refine Inventory.alter_eq_self (fun hm => ?_) f
  have := h.name_le hm
  omega

variable {α : Type} {post : α → Workbench → Prop}

/-- Going on after calls. -/
theorem tell_then {calls : List Call}
    (h : Workbench.Holds { w with device := w.device.performAll calls } base a b)
    {f : Unit → Build α}
    (hf : ∀ w', w'.Holds base a b → (f ()).Meets w' post (Workbench.Fails base)) :
    (Build.tell calls >>= f).Meets w post (Workbench.Fails base) :=
  Build.meets_bind (Build.meets_tell (hf _ h))

/-- Going on after a creation, which gives the next name. -/
theorem make_then (h : w.Holds base a b) {n : Nat} (hn : base.driver.objects.issued + a.length = n)
    {what : Creation} {part : ObjectId what.kind → Part}
    (hp : ∀ id, (part id).handle = id.handle) {f : ObjectId what.kind → Build α}
    (hf : ∀ w', w'.Holds base (((⟨n + 1⟩ : ObjectId what.kind).handle,
        what.kind.store what.object) :: a) b →
      (f ⟨n + 1⟩).Meets w' post (Workbench.Fails base)) :
    (Build.make what part >>= f).Meets w post (Workbench.Fails base) := by
  refine Build.meets_bind (Build.meets_make (fun name e ha => ?_) fun _ _ he => h.refused he)
  obtain rfl : name = n + 1 := by rw [h.name_eq ha, hn]
  exact hf _ (h.make ha (hp _))

/-- Going on after a completeness check of a framebuffer that is complete. The check fails only if
the driver pretends. -/
theorem check_then (h : w.Holds base a b) {id : FramebufferId} {f : Framebuffer}
    (hb : b.draw = some id) (ho : w.device.driver.objects.framebuffers.get? id = some f)
    (hs : w.device.driver.objects.status f = .complete) {next : Unit → Build α}
    (hn : (next ()).Meets w post (Workbench.Fails base)) :
    (Build.check >>= next).Meets w post (Workbench.Fails base) := by
  have hstatus : w.device.driver.status = base.driver.pretence.status.getD .complete := by
    cases hp : base.driver.pretence.status <;>
      simp only [Driver.status, h.bindings, hb, h.frame.pretence, hp, ho, hs, Option.getD]
  refine Build.meets_bind (Build.meets_check (fun _ => hn) fun hc => ⟨?_, a, b, h⟩)
  cases hp : base.driver.pretence.status with
  | none =>
    rw [hstatus, hp] at hc
    cases hc
  | some status =>
    rw [hstatus, hp] at hc ⊢
    exact .pretended hp hc

/-- What a handle of the inventory looks like from the outside. -/
theorem outline_of_mem (h : w.Holds base a b) {x : Handle} {s : Stored} (hx : (x, s) ∈ a) :
    w.device.driver.objects.outline? x = some s.outline :=
  Objects.outline?_of_stored? (h.adds.of_mem hx)

end Workbench.Holds

/-! ## The steps -/

/-- The framebuffer with a store for depth and stencil attached. -/
def Framebuffer.withStore (f : Framebuffer) : DepthStore → Framebuffer
  | .packed id => (f.attach (.renderbuffer id) .depth).attach (.renderbuffer id) .stencil
  | .depthOnly id => f.attach (.renderbuffer id) .depth

namespace Build

variable {w : Workbench} {base : Device} {a : Inventory} {b : Bindings} {n : Nat}

theorem colorTarget_meets (h : w.Holds base a b) (hn : base.driver.objects.issued + a.length = n)
    (size : Size) :
    (colorTarget size).Meets w
      (fun r w' => r = (⟨n + 1⟩, ⟨n + 2⟩) ∧
        w'.Holds base
          ((r.2.handle, .framebuffer ⟨some (.texture r.1), none, none⟩) ::
            (r.1.handle, .texture ⟨some size, .fresh⟩) :: a)
          { b with texture2d := none, read := some r.2, draw := some r.2 })
      (Workbench.Fails base) := by
  unfold colorTarget
  refine h.make_then hn (fun _ => rfl) fun w₁ (h₁ : w₁.Holds base
    (((⟨n + 1⟩ : TextureId).handle, .texture ⟨none, .fresh⟩) :: a) b) => ?_
  -- the texture gets its storage while it is bound, and no other part is changed by that
  have h₂ := (((h₁.bindTexture .texture2d (some ⟨n + 1⟩)).textureSampling .texture2d
    .nearest).textureImage .texture2d size rfl List.mem_cons_self).bindTexture .texture2d none
  rw [Inventory.alter_cons_self, h.alter_later (by simp; omega)] at h₂
  refine Workbench.Holds.tell_then (by exact h₂) fun w₂ h₂ => ?_
  refine h₂.make_then (n := n + 1) (by rw [List.length_cons]; omega) (fun _ => rfl)
    fun w₃ (h₃ : w₃.Holds base
      (((⟨n + 2⟩ : FramebufferId).handle, .framebuffer ⟨none, none, none⟩) :: _) _) => ?_
  have h₄ := (h₃.bindFramebuffer .both (some ⟨n + 2⟩)).attachTexture .color .texture2d ⟨n + 1⟩ rfl
    List.mem_cons_self
  rw [Inventory.alter_cons_self, h₂.alter_later (by simp; omega)] at h₄
  refine Workbench.Holds.tell_then (by exact h₄) fun w₄ h₄ => ?_
  -- with the texture attached the framebuffer is complete
  have hf := Objects.get?_of_outline_framebuffer (h₄.outline_of_mem List.mem_cons_self)
  have ht := Objects.fits_texture
    (h₄.outline_of_mem (List.mem_cons_of_mem _ List.mem_cons_self))
  refine h₄.check_then rfl hf (Objects.status_eq_complete rfl ht nofun nofun) ?_
  exact meets_pure ⟨rfl, h₄⟩

theorem multisampleTarget_meets (h : w.Holds base a b)
    (hn : base.driver.objects.issued + a.length = n) (layout : Layout) :
    (multisampleTarget layout).Meets w
      (fun m w' => m = ⟨⟨n + 1⟩, ⟨n + 2⟩⟩ ∧
        w'.Holds base
          ((m.color.handle, .renderbuffer ⟨some ⟨.rgba8,
              min layout.samples base.driver.profile.sampleLimit, layout.size⟩, .fresh⟩) ::
            (m.framebuffer.handle, .framebuffer ⟨some (.renderbuffer m.color), none, none⟩) :: a)
          { b with read := some m.framebuffer, draw := some m.framebuffer,
                   renderbuffer := some m.color })
      (Workbench.Fails base) := by
  unfold multisampleTarget
  refine h.make_then hn (fun _ => rfl) fun w₁ (h₁ : w₁.Holds base
    (((⟨n + 1⟩ : FramebufferId).handle, .framebuffer ⟨none, none, none⟩) :: a) b) => ?_
  have h₂ := h₁.bindFramebuffer .both (some ⟨n + 1⟩)
  refine Workbench.Holds.tell_then (by exact h₂) fun w₂ h₂ => ?_
  refine h₂.make_then (n := n + 1) (by rw [List.length_cons]; omega) (fun _ => rfl)
    fun w₃ (h₃ : w₃.Holds base
      (((⟨n + 2⟩ : RenderbufferId).handle, .renderbuffer ⟨none, .fresh⟩) :: _) _) => ?_
  have h₄ := (h₃.bindRenderbuffer (some ⟨n + 2⟩)).renderbufferStorage .rgba8 layout.samples
    layout.size rfl List.mem_cons_self
  rw [Inventory.alter_cons_self, h₂.alter_later (by simp; omega)] at h₄
  have h₅ := h₄.attachRenderbuffer .color ⟨n + 2⟩ (show _ = some (⟨n + 1⟩ : FramebufferId) from rfl)
    (List.mem_cons_of_mem _ List.mem_cons_self)
  rw [Inventory.alter_cons_ne (ObjectId.handle_ne _ _ (by decide)), Inventory.alter_cons_self,
    h.alter_later (by simp; omega)] at h₅
  refine Workbench.Holds.tell_then (by exact h₅) fun w₅ h₅ => ?_
  exact meets_pure ⟨rfl, h₅⟩

theorem depthStore_meets (h : w.Holds base a b) (hn : base.driver.objects.issued + a.length = n)
    (layout : Layout) {fb : FramebufferId} (hb : b.draw = some fb) (hx : fb.handle ∈ a.handles) :
    (depthStore layout).Meets w
      (fun s w' => s.renderbuffer = ⟨n + 1⟩ ∧ s.isPacked = layout.packed ∧
        w'.Holds base
          ((s.renderbuffer.handle, .renderbuffer ⟨some ⟨s.format,
              min (if layout.isMultisample then layout.samples else 0)
                base.driver.profile.sampleLimit, layout.size⟩, .fresh⟩) ::
            a.alter fb.handle (Stored.mapObject .framebuffer (·.withStore s)))
          { b with renderbuffer := some s.renderbuffer })
      (Workbench.Fails base) := by
  unfold depthStore
  have hne : (⟨n + 1⟩ : RenderbufferId).handle ≠ fb.handle := ObjectId.handle_ne _ _ (by decide)
  refine h.make_then hn (fun _ => rfl) fun w₁ (h₁ : w₁.Holds base
    (((⟨n + 1⟩ : RenderbufferId).handle, .renderbuffer ⟨none, .fresh⟩) :: a) b) => ?_
  have h₂ := h₁.bindRenderbuffer (some ⟨n + 1⟩)
  refine Workbench.Holds.tell_then (by exact h₂) fun w₂ h₂ => ?_
  cases hp : layout.packed with
  | true =>
    have h₃ := h₂.renderbufferStorage .depth24Stencil8
      (if layout.isMultisample then layout.samples else 0) layout.size rfl List.mem_cons_self
    rw [Inventory.alter_cons_self, h.alter_later (by simp; omega)] at h₃
    -- a packed store goes into both slots
    have h₄ := (h₃.attachRenderbuffer .depth ⟨n + 1⟩ hb
      (List.mem_cons_of_mem _ hx)).attachRenderbuffer .stencil ⟨n + 1⟩ hb
        (by rw [Inventory.handles_alter]; exact List.mem_cons_of_mem _ hx)
    rw [Inventory.alter_alter, Stored.mapObject_comp, Inventory.alter_cons_ne hne] at h₄
    refine Workbench.Holds.tell_then (by exact h₄) fun w₄ h₄ => ?_
    exact meets_pure ⟨rfl, rfl, h₄⟩
  | false =>
    have h₃ := h₂.renderbufferStorage .depth24
      (if layout.isMultisample then layout.samples else 0) layout.size rfl List.mem_cons_self
    rw [Inventory.alter_cons_self, h.alter_later (by simp; omega)] at h₃
    have h₄ := h₃.attachRenderbuffer .depth ⟨n + 1⟩ hb (List.mem_cons_of_mem _ hx)
    rw [Inventory.alter_cons_ne hne] at h₄
    refine Workbench.Holds.tell_then (by exact h₄) fun w₄ h₄ => ?_
    exact meets_pure ⟨rfl, rfl, h₄⟩

end Build

/-! ## The whole set -/

namespace BufferSet

/-- The calls that clear the images of a set and leave the framebuffer of the texture bound. -/
def closingCalls (s : BufferSet) : List Call :=
  match s.multisample with
  | some _ =>
    clearingCalls ++ [.bindFramebuffer .both (some s.framebuffer)] ++
      (.bindRenderbuffer none :: clearingCalls)
  | none => .bindRenderbuffer none :: clearingCalls

theorem isQuiet_closingCalls (s : BufferSet) : ∀ c ∈ s.closingCalls, c.isQuiet = true := by
  have hc : ∀ c ∈ clearingCalls, c.isQuiet = true := by decide
  intro c h
  unfold closingCalls at h
  split at h <;> simp only [List.mem_append, List.mem_cons, List.mem_nil_iff, or_false] at h
  · rcases h with (h | rfl) | rfl | h
    exacts [hc c h, rfl, rfl, hc c h]
  · rcases h with rfl | h
    exacts [rfl, hc c h]

/-- On a new set the closing calls change bindings and clear values only. -/
theorem cleared_closingCalls {s : BufferSet} {limit : Nat} {d : Device}
    (hu : s.Unpainted limit d.driver.objects) (hd : d.driver.bindings.draw = some s.target)
    (hr : s.multisample = none → d.driver.bindings.read = some s.framebuffer) :
    d.driver.Cleared
      { d.driver.bindings with
        read := some s.framebuffer, draw := some s.framebuffer, renderbuffer := none }
      (d.performAll s.closingCalls).driver := by
  unfold closingCalls
  cases hm : s.multisample with
  | none =>
    rw [target, hm] at hd
    have hu' : s.Unpainted limit (d.perform (.bindRenderbuffer none)).driver.objects := hu
    have hc := Device.performAll_clearingCalls (hu'.blank hd (Or.inr rfl))
    refine ⟨hc.stored, hc.bindings.trans ?_, hc.pipeline, hc.display⟩
    show ({ d.driver.bindings with renderbuffer := none } : Bindings) = _
    rw [← hr hm]
    simp only [hr hm, ← hd]
  | some m =>
    -- the images drawn to are cleared first, then the texture that is shown
    have h₁ := Device.performAll_clearingCalls (hu.blank hd (Or.inl rfl))
    simp only [Device.performAll_append, Device.performAll_cons, Device.performAll_nil]
    generalize d.performAll clearingCalls = d₁ at h₁
    have hu' : s.Unpainted limit d₁.driver.objects := hu.congr fun x _ => h₁.stored x
    generalize he : (d₁.perform (.bindFramebuffer .both (some s.framebuffer))).perform
      (.bindRenderbuffer none) = e
    have hobjects : e.driver.objects = d₁.driver.objects := by rw [← he]; rfl
    have hbindings : e.driver.bindings = { d₁.driver.bindings with
        read := some s.framebuffer, draw := some s.framebuffer, renderbuffer := none } := by
      rw [← he]
      rfl
    have h₂ := Device.performAll_clearingCalls
      ((hobjects ▸ hu').blank (by rw [hbindings]) (Or.inr rfl))
    refine ⟨fun x => ?_, ?_, ?_, ?_⟩
    · rw [h₂.stored, hobjects, h₁.stored]
    · rw [h₂.bindings, hbindings, h₁.bindings]
    · rw [h₂.pipeline, ← he]
      show d₁.driver.pipeline.withFreshClears = _
      rw [h₁.pipeline]
      rfl
    · rw [h₂.display, ← he]
      exact h₁.display

/-- The device `e` is `d` with a new set, on which nothing was drawn. -/
structure Made (order : Order) (layout : Layout) (d : Device) (s : BufferSet) (e : Device) :
    Prop where
  order : s.order = order
  layout : s.layout = layout
  multisample : s.multisample.isSome = s.layout.isMultisample
  packed : s.depthStore.isPacked = s.layout.packed
  unpainted : s.Unpainted d.driver.profile.sampleLimit e.driver.objects
  others : ∀ x, x ∉ s.handles → e.driver.objects.stored? x = d.driver.objects.stored? x
  grows : d.Grows e s.handles
  bindings : e.driver.bindings = { d.driver.bindings with
    texture2d := none, read := some s.framebuffer, draw := some s.framebuffer,
    renderbuffer := none }
  pipeline : e.driver.pipeline = d.driver.pipeline.withFreshClears
  display : e.driver.display = d.driver.display
  pretence : e.driver.pretence = d.driver.pretence

/-- When all parts are on the workbench, the closing calls finish the set. -/
theorem made_of_holds {w : Workbench} {base : Device} {a : Inventory} {b : Bindings}
    (h : w.Holds base a b) {s : BufferSet} (hm : s.multisample.isSome = s.layout.isMultisample)
    (hp : s.depthStore.isPacked = s.layout.packed)
    (hu : s.Unpainted base.driver.profile.sampleLimit w.device.driver.objects)
    (ha : a.handles.Perm s.handles) (hd : b.draw = some s.target)
    (hr : s.multisample = none → b.read = some s.framebuffer)
    (hb : { b with
        read := some s.framebuffer, draw := some s.framebuffer, renderbuffer := none } =
      { base.driver.bindings with
        texture2d := none, read := some s.framebuffer, draw := some s.framebuffer,
        renderbuffer := none }) :
    Made s.order s.layout base s (w.device.performAll s.closingCalls) := by
  have hc := cleared_closingCalls hu (by rw [h.bindings, hd]) (by rwa [h.bindings])
  refine ⟨rfl, rfl, hm, hp, hu.congr fun x _ => hc.stored x, fun x hx => ?_, ?_, ?_, ?_, ?_, ?_⟩
  · rw [hc.stored]
    exact h.adds.of_not_mem fun hx' => hx (ha.mem_iff.mp hx')
  · have hg := h.adds.grows.trans (w.device.grows_performAll s.isQuiet_closingCalls) h.regular
    exact hg.perm ha
  · rw [hc.bindings, ← hb, h.bindings]
  · rw [hc.pipeline, h.frame.pipeline]
  · rw [hc.display, h.frame.display]
  · refine Eq.trans ?_ h.frame.pretence
    exact Device.performAll_induct (P := fun v => v.pretence = w.device.driver.pretence)
      (fun c _ v hv => (v.pretence_perform c).trans hv) rfl

end BufferSet

/-- A set whose blueprint is in the inventory was not painted. -/
theorem Workbench.Holds.unpainted {w : Workbench} {base : Device} {a : Inventory} {b : Bindings}
    (h : w.Holds base a b) {s : BufferSet} {limit : Nat}
    (hs : ∀ e ∈ s.blueprint limit, (e.1.handle, e.2) ∈ a) :
    s.Unpainted limit w.device.driver.objects :=
  fun e he => h.adds.of_mem (hs e he)

namespace Build

variable {w : Workbench} {base : Device} {a : Inventory} {b : Bindings} {n : Nat}

/-- With all parts on the workbench the check of the framebuffer that is drawn to passes, and the
closing calls finish the set. -/
theorem closing_meets (h : w.Holds base a b) {s : BufferSet}
    (hm : s.multisample.isSome = s.layout.isMultisample)
    (hp : s.depthStore.isPacked = s.layout.packed)
    (hs : ∀ e ∈ s.blueprint base.driver.profile.sampleLimit, (e.1.handle, e.2) ∈ a)
    (ha : a.handles.Perm s.handles) (hd : b.draw = some s.target)
    (hr : s.multisample = none → b.read = some s.framebuffer)
    (hb : { b with
        read := some s.framebuffer, draw := some s.framebuffer, renderbuffer := none } =
      { base.driver.bindings with
        texture2d := none, read := some s.framebuffer, draw := some s.framebuffer,
        renderbuffer := none })
    {next : Unit → Build BufferSet}
    (hn : s.Made s.order s.layout base (w.device.performAll s.closingCalls) →
      (next ()).Meets w (fun s' w' => s'.Made s.order s.layout base w'.device)
        (Workbench.Fails base)) :
    (check >>= next).Meets w (fun s' w' => s'.Made s.order s.layout base w'.device)
      (Workbench.Fails base) := by
  have hu := h.unpainted hs
  have hi := hu.intact hm hp
  exact h.check_then hd (Objects.get?_of_outline_framebuffer hi.target_outline)
    hi.status_drawnSlots (hn (BufferSet.made_of_holds h hm hp hu ha hd hr hb))

theorem bufferSet_meets (h : w.Holds base [] base.driver.bindings)
    (hn : base.driver.objects.issued = n) (order : Order) (layout : Layout) :
    (bufferSet order layout).Meets w (fun s w' => s.Made order layout base w'.device)
      (Workbench.Fails base) := by
  unfold bufferSet
  refine meets_bind ((colorTarget_meets h hn layout.size).mono fun r w₁ hr => ?_)
  obtain ⟨rfl, h₁⟩ := hr
  dsimp only at h₁ ⊢
  cases hm : layout.isMultisample with
  | false =>
    simp only [Bool.false_eq_true, if_false]
    refine meets_bind ((depthStore_meets h₁ (n := n + 2) (by simp; omega) layout rfl
      List.mem_cons_self).mono fun store w₂ hr => ?_)
    obtain ⟨hs, hp, h₂⟩ := hr
    -- the store is attached to the framebuffer of the texture
    rw [Inventory.alter_cons_self, Inventory.alter_cons_ne (ObjectId.handle_ne _ _ (by decide))]
      at h₂
    let s : BufferSet := ⟨order, layout, ⟨n + 1⟩, ⟨n + 2⟩, none, store⟩
    refine closing_meets (s := s) h₂ hm.symm hp (fun e he => ?_) (.swap _ _ _) rfl (fun _ => rfl)
      rfl fun hmade => meets_bind (meets_tell (meets_pure hmade))
    simp only [s, BufferSet.blueprint, Option.map_none, Option.toList_none, List.nil_append,
      List.append_nil, List.cons_append, List.mem_cons, List.mem_nil_iff, or_false] at he
    rcases he with rfl | rfl | rfl
    · cases store <;> exact List.mem_cons_of_mem _ List.mem_cons_self
    · simp [BufferSet.storedSamples, Part.handle, hm]
    · exact List.mem_cons_of_mem _ (List.mem_cons_of_mem _ List.mem_cons_self)
  | true =>
    simp only [if_true]
    refine meets_bind ((multisampleTarget_meets h₁ (n := n + 2) (by simp; omega) layout).mono
      fun m w₂ hr => ?_)
    obtain ⟨rfl, h₂⟩ := hr
    refine meets_bind ((depthStore_meets h₂ (n := n + 4) (by simp; omega) layout rfl
      (List.mem_cons_of_mem _ List.mem_cons_self)).mono fun store w₃ hr => ?_)
    obtain ⟨hs, hp, h₃⟩ := hr
    dsimp only at h₃
    -- the store is attached to the framebuffer of the samples, and not to that of the texture
    rw [Inventory.alter_cons_ne (ObjectId.handle_ne _ _ (by decide)), Inventory.alter_cons_self,
      Inventory.alter_cons_ne (by simp),
      Inventory.alter_cons_ne (ObjectId.handle_ne _ _ (by decide))] at h₃
    let s : BufferSet := ⟨order, layout, ⟨n + 1⟩, ⟨n + 2⟩, some ⟨⟨n + 3⟩, ⟨n + 4⟩⟩, store⟩
    -- the parts are deleted in another order than they were made in
    have hparts (p q r s t : Handle) : [p, q, r, s, t].Perm [r, s, q, p, t] := by
      show ([p, q] ++ [r, s] ++ [t]).Perm _
      exact (List.perm_append_comm.append_right [t]).trans (.cons r (.cons s (.swap _ _ _)))
    refine closing_meets (s := s) h₃ hm.symm hp (fun e he => ?_) (hparts _ _ _ _ _) rfl
      (fun hn => absurd hn (Option.some_ne_none _)) rfl fun hmade =>
        meets_bind (meets_tell (meets_bind (meets_tell (meets_pure ?_))))
    · simp only [s, BufferSet.blueprint, Option.map_some, Option.toList_some, List.cons_append,
        List.nil_append, List.mem_cons, List.mem_nil_iff, or_false] at he
      rcases he with rfl | rfl | rfl | rfl | rfl
      · cases store <;> simp [Part.handle, BufferSet.drawnSlots, Framebuffer.withStore,
          Framebuffer.attach, BufferSet.drawnImage, DepthStore.renderbuffer, DepthStore.stencil?,
          Stored.mapObject]
      · simp [Part.handle, BufferSet.shownSlots]
      · simp [BufferSet.storedSamples, Part.handle]
      · simp [BufferSet.storedSamples, Part.handle, hm]
      · simp [Part.handle]
    · exact hmade

end Build

/-! ## Success and failure -/

/-- The device `e` is `d` but for framebuffers and other objects bound: all objects are as they
were, and so are the pipeline, the display and the program in use. -/
structure Device.Restored (d e : Device) : Prop where
  adds : d.Adds e []
  frame : d.SameFrame e

theorem Device.Restored.stored {d e : Device} (h : d.Restored e) (x : Handle) :
    e.driver.objects.stored? x = d.driver.objects.stored? x :=
  h.adds.stored x

theorem Part.frame_deletion (p : Part) : p.deletion.paints = false ∧
    p.deletion.setsPipeline = false ∧ p.deletion.setsProgram = false := by
  cases p <;> exact ⟨rfl, rfl, rfl⟩

theorem BufferSet.sameFrame_delete (s : BufferSet) (d : Device) : d.SameFrame (s.delete d) := by
  refine Device.sameFrame_performAll (fun c hc => ?_) d
  obtain ⟨p, -, rfl⟩ := List.mem_map.mp hc
  exact p.frame_deletion

/-- After a failure the parts made so far are deleted. -/
theorem Workbench.Holds.release {w : Workbench} {base : Device} {a : Inventory} {b : Bindings}
    (h : w.Holds base a b) : base.Restored w.release := by
  refine ⟨?_, h.frame.trans (Device.sameFrame_performAll (fun c hc => ?_) _)⟩
  · rw [Workbench.release, Device.performAll_append]
    refine Device.Adds.delete ?_ h.regular (show _ = (w.parts.map Part.handle).map some by simp)
      (.of_eq h.parts)
    exact (h.adds.perform (c := .bindFramebuffer .both none) rfl rfl rfl).perform
      (c := .bindRenderbuffer none) rfl rfl rfl
  · rcases List.mem_append.mp hc with hc | hc
    · rcases List.mem_pair.mp hc with rfl | rfl <;> exact ⟨rfl, rfl, rfl⟩
    · obtain ⟨p, -, rfl⟩ := List.mem_map.mp hc
      exact p.frame_deletion

namespace BufferSet

variable {order : Order} {layout : Layout} {d e : Device}

/-- A set is made, or nothing is left behind and the device has an excuse. -/
theorem make_spec (hr : d.driver.objects.Regular) (order : Order) (layout : Layout) :
    match make order layout d with
    | (.ok s, e) => s.Made order layout d e
    | (.error failure, e) => d.Excuses failure ∧ d.Restored e := by
  have hm := Build.bufferSet_meets (.start hr) rfl order layout
  unfold Build.Meets at hm
  unfold make
  rw [ExceptT.run]
  split at hm
  · rename_i hb
    rw [hb]
    exact hm
  · rename_i hb
    rw [hb]
    obtain ⟨he, a, b, hw⟩ := hm
    exact ⟨he, hw.release⟩

theorem made_of_make (hr : d.driver.objects.Regular) {s : BufferSet}
    (h : make order layout d = (.ok s, e)) : s.Made order layout d e := by
  have hm := make_spec hr order layout
  rwa [h] at hm

theorem restored_of_make (hr : d.driver.objects.Regular) {failure : Failure}
    (h : make order layout d = (.error failure, e)) : d.Excuses failure ∧ d.Restored e := by
  have hm := make_spec hr order layout
  rwa [h] at hm

/-- Where nothing goes wrong, the set can be made. -/
theorem make_of_isFaultless (hr : d.driver.objects.Regular) (hf : d.IsFaultless) (order : Order)
    (layout : Layout) : ∃ s e, make order layout d = (.ok s, e) ∧ s.Made order layout d e := by
  rcases hm : make order layout d with ⟨failure | s, e⟩
  · exact absurd (restored_of_make hr hm).1 (hf.not_excuses failure)
  · exact ⟨s, e, rfl, made_of_make hr hm⟩

end BufferSet

end Compositor
