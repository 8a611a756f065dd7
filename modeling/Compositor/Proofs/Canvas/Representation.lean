import Compositor.Proofs.Buffer.Ensuring
import Compositor.Proofs.Buffer.Layout
import Compositor.Proofs.Canvas.Working
import Mathlib.Logic.Relation

/-!
# The parts of a set agree

A set that was ensured is consistent: its objects are live, its images have the size and the samples
of the layout, they are in the slots where they belong, and the framebuffers are complete. It stays
so under everything that is done on the canvas and leaves the set to it, whatever is drawn and
however much is bound meanwhile.
-/

namespace Compositor

/-- The storage of a renderbuffer. -/
def Driver.storage? (d : Driver) (id : RenderbufferId) : Option Storage :=
  (d.objects.renderbuffers.get? id).bind (·.storage)

/-- The status of a framebuffer when it is drawn to. -/
def Driver.statusOf (d : Driver) (id : FramebufferId) : Status :=
  (d.perform (.bindFramebuffer .draw (some id))).status

namespace BufferSet

/-- The parts of the set agree with its layout and with each other. -/
structure Consistent (s : BufferSet) (d : Driver) : Prop where
  live : ∀ p ∈ s.parts, d.objects.Live p.handle
  multisample : s.multisample.isSome = true ↔ 1 < s.layout.samples
  packed : s.depthStore.isPacked = s.layout.packed
  texture : d.textureSize? s.texture = some s.layout.size
  color : ∀ m, s.multisample = some m →
    d.storage? m.color = some ⟨.rgba8, s.layout.samples, s.layout.size⟩
  depthStore : d.storage? s.depthStore.renderbuffer =
    some ⟨s.depthStore.format, if s.multisample.isSome then s.layout.samples else 0, s.layout.size⟩
  /-- The framebuffer that is drawn to has the store. -/
  target : d.objects.framebuffers.get? s.target = some s.drawnSlots
  /-- The framebuffer of the texture has the texture, and the store if there is no other. -/
  framebuffer : d.objects.framebuffers.get? s.framebuffer = some s.shownSlots
  complete : d.pretence.status = none →
    ∀ id, .framebuffer id ∈ s.parts → d.statusOf id = .complete

variable {s : BufferSet} {d : Driver}

theorem storage?_of_outline {id : RenderbufferId} {storage : Storage} {fill : Fill}
    (h : d.objects.outline? id.handle = some (.renderbuffer ⟨some storage, fill⟩)) :
    d.storage? id = some storage := by
  obtain ⟨fill', hget⟩ := Objects.get?_of_outline_renderbuffer h
  rw [Driver.storage?, hget]
  rfl

/-- A driver that pretends nothing reports the framebuffers of an intact set complete. -/
theorem Intact.statusOf_eq_complete {limit : Nat} (h : s.Intact limit d.objects)
    (hp : d.pretence.status = none) {id : FramebufferId} (hid : .framebuffer id ∈ s.parts) :
    d.statusOf id = .complete := by
  obtain ⟨f, hf, hs⟩ := h.status_complete hid
  have hget : (d.perform (.bindFramebuffer .draw (some id))).objects.framebuffers.get? id =
    some f := hf
  have hpretence : (d.perform (.bindFramebuffer .draw (some id))).pretence.status = none := hp
  rw [Driver.statusOf, Driver.status]
  dsimp only [Driver.perform, Bindings.bindFramebuffer] at hget hpretence ⊢
  rw [hpretence, hget]
  exact hs

/-- An intact set is consistent where storage is given as many samples as the layout says. -/
theorem Intact.consistent (h : s.Intact d.profile.sampleLimit d.objects)
    (hl : s.layout.samples ≤ d.profile.sampleLimit) : s.Consistent d where
  live p hp := h.live (List.mem_map_of_mem hp)
  multisample := by
    rw [h.multisample]
    simp [Layout.isMultisample]
  packed := h.packed
  texture := by
    obtain ⟨fill, hget⟩ := Objects.get?_of_outline_texture h.texture_outline
    rw [Driver.textureSize?, hget]
    rfl
  color m hm := by
    have ho := storage?_of_outline (h.color_outline hm)
    rw [storedSamples, hm] at ho
    simpa [Nat.min_eq_left hl] using ho
  depthStore := by
    have ho := storage?_of_outline h.depthStore_outline
    rwa [storedSamples, Nat.min_eq_left hl] at ho
  target := Objects.get?_of_outline_framebuffer h.target_outline
  framebuffer := Objects.get?_of_outline_framebuffer h.framebuffer_outline
  complete hp id hid := h.statusOf_eq_complete hp hid

/-- Nothing was drawn on the images of an unpainted set. -/
theorem Unpainted.fill?_eq {limit : Nat} {o : Objects} (h : s.Unpainted limit o) {image : Image}
    (hi : image.handle ∈ s.handles) : o.fill? image = some .fresh := by
  have hlive : o.Live image.handle := by
    obtain ⟨e, he, hx⟩ := (s.mem_handles_iff limit).mp hi
    rw [Objects.Live, ← hx, h e he]
    exact Option.some_ne_none e.2
  obtain ⟨fill, hfill⟩ := o.exists_fill? hlive
  rw [hfill, h.fresh hi hfill]

end BufferSet

/-! ## Using the set -/

/-- One thing that is done on a canvas or on the device below it, and that neither gives the set up
nor makes, deletes or alters an object of the set by a call of its own. -/
inductive Canvas.Uses (s : BufferSet) (c : Canvas) : Canvas → Prop where
  | beginFrame : Uses s c c.beginFrame
  | endFrame (surface : Size) (context : Context) : Uses s c (c.endFrame surface context)
  | readback : Uses s c c.readback.2
  | fill (context : Context) (surface : Size) (color : Rgba) (region : Rect) :
    Uses s c (c.fill context surface color region).2
  | drawTexture (context : Context) (surface : Size) (patch : TexturePatch) :
    Uses s c (c.drawTexture context surface patch).2
  | sampleColor (surface : Size) (x y : Nat) : Uses s c (c.sampleColor surface x y).2
  | sampleDepth (surface : Size) (x y : Nat) : Uses s c (c.sampleDepth surface x y).2
  | sampleStencil (surface : Size) (x y : Nat) : Uses s c (c.sampleStencil surface x y).2
  | ensure {order : Order} (caps : Capabilities) :
    c.backing.serves order = true → Uses s c (c.ensure order caps).2
  | releasePrograms (context : Context) : Uses s c (c.releasePrograms context)
  | call (call : Call) : (∀ x ∈ s.handles, c.device.driver.target? call ≠ some x) →
    Uses s c { c with device := c.device.perform call }
  | attempt (what : Creation) : Uses s c { c with device := (c.device.attempt what).2 }
  | compile (id : ShaderId) (source : String) :
    Uses s c { c with device := (c.device.compile id source).2 }
  | setFaults (faults : FaultPlan) :
    Uses s c { c with device := { c.device with faults := faults } }
  | pretend (pretence : Pretence) :
    Uses s c { c with device := c.device.modifyDriver ({ · with pretence := pretence }) }
  | freshContext : Uses s c { c with device := c.device.modifyDriver (·.freshContext.2) }

/-- The canvas is backed by the set, and the set is intact. -/
structure Canvas.Carries (c : Canvas) (s : BufferSet) : Prop where
  regular : c.device.driver.objects.Regular
  set : c.backing.set? = some s
  samples : s.layout.samples ≤ c.device.driver.profile.sampleLimit
  intact : s.Intact c.device.driver.profile.sampleLimit c.device.driver.objects

namespace Canvas.Carries

variable {c c' : Canvas} {s : BufferSet}

theorem keep (h : c.Carries s) (hr : c'.device.driver.objects.Regular)
    (hs : c'.backing.set? = c.backing.set?)
    (hp : c'.device.driver.profile = c.device.driver.profile)
    (ho : ∀ x ∈ s.handles,
      c'.device.driver.objects.outline? x = c.device.driver.objects.outline? x) : c'.Carries s :=
  ⟨hr, hs.trans h.set, hp ▸ h.samples, hp ▸ h.intact.congr ho⟩

theorem grow (h : c.Carries s) {new : List Handle} (hs : c'.backing.set? = c.backing.set?)
    (hg : c.device.Grows c'.device new) : c'.Carries s :=
  h.keep (hg.regular h.regular) hs hg.host.profile fun _ hx =>
    hg.outline_of_live h.regular (h.intact.live hx)

/-- One use keeps the set intact. -/
theorem step (h : c.Carries s) (hu : Canvas.Uses s c c') : c'.Carries s := by
  have hr := h.regular
  cases hu with
  | beginFrame => exact h.grow (idles_beginFrame hr).set (idles_beginFrame hr).grows
  | endFrame surface context =>
    obtain ⟨new, hw⟩ := works_endFrame hr surface context
    exact h.grow hw.set hw.grows
  | readback => exact h.grow (idles_readback hr).set (idles_readback hr).grows
  | fill context surface color region =>
    obtain ⟨new, hw⟩ := works_fill hr context surface color region
    exact h.grow hw.set hw.grows
  | drawTexture context surface patch =>
    obtain ⟨new, hw⟩ := works_drawTexture hr context surface patch
    exact h.grow hw.set hw.grows
  | sampleColor surface x y =>
    have hi := idles_sampleColor hr surface x y
    exact h.grow hi.set hi.grows
  | sampleDepth surface x y =>
    have hi := idles_sampleDepth hr surface x y
    exact h.grow hi.set hi.grows
  | sampleStencil surface x y =>
    have hi := idles_sampleStencil hr surface x y
    exact h.grow hi.set hi.grows
  | ensure caps hs =>
    rw [Canvas.ensure, Backing.ensure_of_serves hs]
    exact h
  | releasePrograms context =>
    have hd := c.drops_releasePrograms context
    exact h.keep (hd.edits.regular hr) rfl hd.host.profile fun x hx => hd.outline fun hm => by
      obtain ⟨p, -, hp⟩ := List.mem_flatMap.mp hm
      exact s.disjoint_handles p hx hp
  | call call ht =>
    exact h.keep ((c.device.driver.edits_perform call).regular hr) rfl
      (c.device.driver.profile_perform call) fun x hx => Driver.outline?_perform (ht x hx)
  | attempt what =>
    exact h.keep ((c.device.edits_attempt what).regular hr) rfl
      (c.device.sameHost_attempt what).profile fun x hx =>
        Device.outline_attempt hr what (h.intact.live hx)
  | compile id source =>
    refine h.keep ((c.device.edits_compile id source).regular hr) rfl
      (c.device.sameHost_compile id source).profile fun x hx => ?_
    -- a shader is no part of a set
    refine c.device.outline_compile source ?_
    rintro rfl
    exact (BufferSet.kind_of_mem_handles hx).1 rfl
  | setFaults faults => exact h.keep hr rfl rfl fun _ _ => rfl
  | pretend pretence => exact h.keep hr rfl rfl fun _ _ => rfl
  | freshContext => exact h.keep hr rfl rfl fun _ _ => rfl

theorem run (h : c.Carries s) (hu : Relation.ReflTransGen (Canvas.Uses s) c c') :
    c'.Carries s := by
  induction hu with
  | refl => exact h
  | tail _ hstep ih => exact ih.step hstep

end Canvas.Carries

/-! ## Sets that were ensured -/

namespace Backing

/-- A set that was made because none served suits the surface, is consistent and starts with fresh
images, whatever was done to the driver before. It stays consistent as long as it is used. -/
theorem consistent_of_ensure {d e : Device} (hd : d.Reachable) {b b' : Backing} {size : Size}
    {quality : Nat} {owner : Context} (hs : b.serves (.ofQuality size quality owner) = false)
    (h : b.ensure (.ofQuality size quality owner) d.driver.profile.capabilities d =
      (.ok (), b', e)) :
    ∃ set, b' = .ready set .fresh ∧ set.order = .ofQuality size quality owner ∧
      set.layout.Suits size quality d.driver.profile.capabilities ∧ set.Consistent e.driver ∧
      (∀ image : Image, image.handle ∈ set.handles →
        e.driver.objects.fill? image = some .fresh) ∧
      ∀ c c' : Canvas, c.device = e → c.backing = b' →
        Relation.ReflTransGen (Canvas.Uses set) c c' →
          c'.backing.set? = some set ∧ set.Consistent c'.device.driver := by
  obtain ⟨layout, set, hl, hb', hmade⟩ := made_of_ensure hd.regular hs h
  have hdrop := (b.drops_discard owner d).1
  have hr := hmade.grows.regular (hdrop.edits.regular hd.regular)
  have hprofile : e.driver.profile = d.driver.profile :=
    hmade.grows.host.profile.trans hdrop.host.profile
  have hsuits : set.layout.Suits size quality d.driver.profile.capabilities := by
    rw [hmade.layout]
    exact Order.suits_of_layout hl
  -- the driver does not give fewer samples than the layout says
  have hlimit : set.layout.samples ≤ d.driver.profile.sampleLimit :=
    Nat.le_trans hsuits.possible d.driver.profile.maxSamples_capabilities.2.1
  have hu : set.Unpainted e.driver.profile.sampleLimit e.driver.objects := by
    rw [hprofile, ← hdrop.host.profile]
    exact hmade.unpainted
  have hi := hu.intact hmade.multisample hmade.packed
  refine ⟨set, hb', hmade.order, hsuits, hi.consistent (hprofile ▸ hlimit),
    fun image => hu.fill?_eq, fun c c' hc hb hrun => ?_⟩
  have hcarries : c.Carries set :=
    ⟨hc ▸ hr, by rw [hb, hb']; rfl, hc ▸ hprofile ▸ hlimit, hc ▸ hi⟩
  have hcarries' := hcarries.run hrun
  exact ⟨hcarries'.set, hcarries'.intact.consistent hcarries'.samples⟩

/-- A set of several samples on a driver whose masks let no colour through. -/
theorem consistent_of_masked_driver :
    ∃ set e, uninitialized.ensure (.ofQuality ⟨5, 0⟩ 5 (.live 1)) Profile.full.capabilities
        ((Device.create .full).perform (.colorMask (Channels.all false))) =
          (.ok (), .ready set .fresh, e) ∧
      set.layout = ⟨⟨5, 1⟩, 4, true⟩ ∧ set.Consistent e.driver ∧
      set.Consistent
        (Canvas.beginFrame ⟨e, .ready set .fresh, .empty, ⟨0, 0, 0, 0, 0⟩⟩).device.driver := by
  have hd : ((Device.create .full).perform (.colorMask (Channels.all false))).Reachable :=
    .perform _ (.create .full)
  have hf : ((Device.create .full).perform (.colorMask (Channels.all false))).IsFaultless :=
    ⟨fun _ => rfl, nofun⟩
  have hl : (Order.ofQuality ⟨5, 0⟩ 5 (.live 1)).layout Profile.full.capabilities =
      .ok ⟨⟨5, 1⟩, 4, true⟩ := by
    decide +kernel
  obtain ⟨set, e, h, hmade⟩ :=
    ensure_of_isFaultless (b := uninitialized) hd.regular hf rfl hl
  obtain ⟨set', hset, -, -, hconsistent, -, hkeeps⟩ := consistent_of_ensure hd rfl h
  cases hset
  exact ⟨set, e, h, hmade.layout, hconsistent,
    (hkeeps ⟨e, .ready set .fresh, .empty, ⟨0, 0, 0, 0, 0⟩⟩ _ rfl rfl (.single .beginFrame)).2⟩

end Backing

end Compositor
