import Compositor.Proofs.Driver.Effect

/-!
# What a completeness check reports

The status of what is drawn to, said without a word on how the check goes about it. `Usable` says
which images a slot takes and what they measure, `IsComplete` that all images of a framebuffer
measure the same, and `FirstFault` what is wrong with the first of them that does not. The check
reports that a framebuffer is complete just when it is, and its first fault otherwise.
-/

namespace Compositor

namespace Attachment

/-- The formats of the renderbuffers that a slot takes. -/
def formats : Attachment → List StorageFormat
  | color => [.rgba8]
  | depth => [.depth24Stencil8, .depth24]
  | stencil => [.depth24Stencil8, .stencil8]

/-- The slots that come before a slot. -/
def earlier : Attachment → List Attachment
  | color => []
  | depth => [color]
  | stencil => [color, depth]

theorem earlier_trans {x y z : Attachment} (hx : x ∈ y.earlier) (hy : y ∈ z.earlier) :
    x ∈ z.earlier := by
  cases x <;> cases y <;> cases z <;> simp_all [earlier]

end Attachment

theorem StorageFormat.fits_iff (format : StorageFormat) (slot : Attachment) :
    format.fits slot = true ↔ format ∈ slot.formats := by
  cases format <;> cases slot <;> decide

namespace Objects

/-- An image that a slot takes, with its size and its number of samples, where none counts as one.
A texture is taken for colour only, a renderbuffer by its format; both need storage. -/
inductive Usable (o : Objects) : Attachment → Image → Extent → Prop
  | texture {id : TextureId} {t : Texture} {size : Size} :
    o.textures.get? id = some t → t.size = some size → Usable o .color (.texture id) ⟨size, 1⟩
  | renderbuffer {slot : Attachment} {id : RenderbufferId} {r : Renderbuffer} {s : Storage} :
    o.renderbuffers.get? id = some r → r.storage = some s → s.format ∈ slot.formats →
    Usable o slot (.renderbuffer id) ⟨s.size, max s.samples 1⟩

/-- The framebuffer has a colour image, and its slots take their images, which are all of one size
and have the same number of samples. -/
structure IsComplete (o : Objects) (f : Framebuffer) : Prop where
  color : f.color ≠ none
  agree : ∃ e, ∀ slot image, f.slot slot = some image → o.Usable slot image e

/-- What is wrong with the image in a slot of a framebuffer, if anything is: the slot does not take
it, or it is not like the colour image. -/
inductive Fault (o : Objects) (f : Framebuffer) (slot : Attachment) : Status → Prop
  | unusable {image : Image} : f.slot slot = some image → (∀ e, ¬ o.Usable slot image e) →
    Fault o f slot .incompleteAttachment
  | size {image color : Image} {e r : Extent} : f.slot slot = some image → f.color = some color →
    o.Usable slot image e → o.Usable .color color r → e.size ≠ r.size →
    Fault o f slot .incompleteDimensions
  | samples {image color : Image} {e r : Extent} : f.slot slot = some image →
    f.color = some color → o.Usable slot image e → o.Usable .color color r → e.size = r.size →
    e.samples ≠ r.samples → Fault o f slot .incompleteMultisample

/-- What is wrong with the image in a slot, and nothing with those before it. -/
structure FirstFault (o : Objects) (f : Framebuffer) (slot : Attachment) (s : Status) : Prop where
  fault : o.Fault f slot s
  sound : ∀ before ∈ slot.earlier, ∀ t, ¬ o.Fault f before t

variable {o : Objects} {f : Framebuffer} {slot : Attachment} {image : Image} {e r : Extent}

/-! ## Usable images -/

/-- What makes an image usable for the check. -/
theorem usable_iff : o.Usable slot image e ↔
    o.supports slot image = true ∧
      ∃ r, o.extent? image = some r ∧ e = ⟨r.size, max r.samples 1⟩ := by
  constructor
  · rintro (⟨ht, hsize⟩ | ⟨hr, hs, hformat⟩)
    · exact ⟨rfl, ⟨_, 0⟩, by simp [extent?, ht, hsize], rfl⟩
    · refine ⟨?_, ⟨_, _⟩, by simp [extent?, hr, hs], rfl⟩
      simpa [supports, hr, hs] using (StorageFormat.fits_iff _ _).mpr hformat
  · rintro ⟨hsupports, r, hextent, rfl⟩
    cases image with
    | texture id =>
      obtain rfl : slot = .color := by simpa [supports] using hsupports
      simp only [extent?, Option.map_eq_some_iff, Option.bind_eq_some_iff] at hextent
      obtain ⟨size, ⟨t, ht, hsize⟩, rfl⟩ := hextent
      exact .texture ht hsize
    | renderbuffer id =>
      simp only [extent?, Option.map_eq_some_iff, Option.bind_eq_some_iff] at hextent
      obtain ⟨s, ⟨b, hb, hs⟩, rfl⟩ := hextent
      refine .renderbuffer hb hs ((StorageFormat.fits_iff _ _).mp ?_)
      simpa [supports, hb, hs] using hsupports

theorem Usable.live (h : o.Usable slot image e) : o.Live image.handle := by
  cases h with
  | texture ht => simp [Live, Image.handle, stored?_texture, ht]
  | renderbuffer hr => simp [Live, Image.handle, stored?_renderbuffer, hr]

/-- An image measures one thing. -/
theorem Usable.unique {other : Attachment} (h : o.Usable slot image e)
    (h' : o.Usable other image r) : e = r := by
  obtain ⟨-, x, hx, rfl⟩ := usable_iff.mp h
  obtain ⟨-, y, hy, rfl⟩ := usable_iff.mp h'
  rw [Option.some.inj (hx.symm.trans hy)]

theorem fault?_of_not_usable (h : ∀ e, ¬ o.Usable slot image e) (reference : Option Extent) :
    o.fault? reference slot image = some .incompleteAttachment := by
  unfold fault?
  split
  · rename_i hsupports
    cases hextent : o.extent? image with
    | none => rfl
    | some x => exact absurd (usable_iff.mpr ⟨hsupports, x, hextent, rfl⟩) (h _)
  · rfl

theorem fault?_of_usable (h : o.Usable slot image e) :
    o.fault? none slot image = none := by
  obtain ⟨hsupports, x, hextent, rfl⟩ := usable_iff.mp h
  simp [fault?, hsupports, hextent]

/-- A usable image is compared with the colour image, if that is usable itself. -/
theorem fault?_of_usable_color {color : Image} (h : o.Usable slot image e)
    (hcolor : o.Usable .color color r) :
    o.fault? (o.extent? color) slot image =
      if e.size ≠ r.size then some .incompleteDimensions
      else if e.samples ≠ r.samples then some .incompleteMultisample
      else none := by
  obtain ⟨hsupports, x, hextent, rfl⟩ := usable_iff.mp h
  obtain ⟨-, y, hy, rfl⟩ := usable_iff.mp hcolor
  simp only [fault?, hsupports, hextent, hy, if_true, ne_comm]

/-! ## Faults -/

/-- All that can be wrong with an image that its slot does not take. -/
theorem fault_iff_of_not_usable (hi : f.slot slot = some image) (hu : ∀ e, ¬ o.Usable slot image e)
    {s : Status} : o.Fault f slot s ↔ s = .incompleteAttachment := by
  constructor
  · intro h
    cases h with
    | unusable => rfl
    | size hi' _ hu' =>
      obtain rfl := Option.some.inj (hi.symm.trans hi')
      exact absurd hu' (hu _)
    | samples hi' _ hu' =>
      obtain rfl := Option.some.inj (hi.symm.trans hi')
      exact absurd hu' (hu _)
  · rintro rfl
    exact .unusable hi hu

/-- All that can be wrong with a usable image: the colour image is another size, or has another
number of samples. -/
theorem fault_iff_of_usable {color : Image} (hi : f.slot slot = some image)
    (hc : f.color = some color) (hu : o.Usable slot image e) (hr : o.Usable .color color r)
    {s : Status} : o.Fault f slot s ↔
      e.size ≠ r.size ∧ s = .incompleteDimensions ∨
      e.size = r.size ∧ e.samples ≠ r.samples ∧ s = .incompleteMultisample := by
  constructor
  · intro h
    cases h with
    | unusable hi' hnone =>
      obtain rfl := Option.some.inj (hi.symm.trans hi')
      exact absurd hu (hnone _)
    | size hi' hc' hu' hr' hne =>
      obtain rfl := Option.some.inj (hi.symm.trans hi')
      obtain rfl := Option.some.inj (hc.symm.trans hc')
      rw [hu.unique hu', hr.unique hr']
      exact Or.inl ⟨hne, rfl⟩
    | samples hi' hc' hu' hr' hsize hne =>
      obtain rfl := Option.some.inj (hi.symm.trans hi')
      obtain rfl := Option.some.inj (hc.symm.trans hc')
      rw [hu.unique hu', hr.unique hr']
      exact Or.inr ⟨hsize, hne, rfl⟩
  · rintro (⟨hne, rfl⟩ | ⟨hsize, hne, rfl⟩)
    · exact .size hi hc hu hr hne
    · exact .samples hi hc hu hr hsize hne

/-- Nothing is wrong with any slot of a framebuffer that is complete. -/
theorem isComplete_iff : o.IsComplete f ↔ f.color ≠ none ∧ ∀ slot s, ¬ o.Fault f slot s := by
  constructor
  · rintro ⟨hcolor, extent, hall⟩
    obtain ⟨color, hc⟩ := Option.ne_none_iff_exists'.mp hcolor
    have hr : o.Usable .color color extent := hall .color color hc
    refine ⟨hcolor, fun slot s hfault => ?_⟩
    cases hi : f.slot slot with
    | none => cases hfault <;> simp_all
    | some image =>
      rw [fault_iff_of_usable hi hc (hall slot image hi) hr] at hfault
      simp at hfault
  · rintro ⟨hcolor, hsound⟩
    obtain ⟨color, hc⟩ := Option.ne_none_iff_exists'.mp hcolor
    have husable {slot : Attachment} {image : Image} (hi : f.slot slot = some image) :
        ∃ e, o.Usable slot image e := by
      by_contra hnone
      exact hsound slot _ (.unusable hi (not_exists.mp hnone))
    obtain ⟨r, hr⟩ : ∃ r, o.Usable .color color r := husable hc
    refine ⟨hcolor, r, fun slot image hi => ?_⟩
    obtain ⟨⟨size, samples⟩, he⟩ := husable hi
    obtain rfl : size = r.size := by
      by_contra hne
      exact hsound slot _ (.size hi hc he hr hne)
    obtain rfl : samples = r.samples := by
      by_contra hne
      exact hsound slot _ (.samples hi hc he hr rfl hne)
    exact he

/-! ## The first fault -/

/-- The fault that the check finds in a slot. -/
def faultIn? (o : Objects) (f : Framebuffer) (slot : Attachment) : Option Status :=
  (f.slot slot).bind (o.fault? (if slot = .color then none else f.color.bind o.extent?) slot)

theorem status_eq (h : f.color ≠ none) :
    o.status f =
      (o.faultIn? f .color <|> o.faultIn? f .depth <|> o.faultIn? f .stencil).getD .complete := by
  obtain ⟨color, hcolor⟩ := Option.ne_none_iff_exists'.mp h
  simp only [status, hcolor, faultIn?, Framebuffer.slot, reduceCtorEq, if_true, if_false,
    Option.bind_some]

/-- If nothing is wrong with the slots before it, the check finds in a slot what is wrong with it:
the colour image is usable then, so that others can be compared with it. -/
theorem fault_iff_faultIn? (hcolor : f.color ≠ none)
    (h : ∀ before ∈ slot.earlier, ∀ t, ¬ o.Fault f before t) {s : Status} :
    o.Fault f slot s ↔ o.faultIn? f slot = some s := by
  obtain ⟨color, hc⟩ := Option.ne_none_iff_exists'.mp hcolor
  rw [faultIn?]
  cases hi : f.slot slot with
  | none =>
    refine ⟨fun hfault => ?_, nofun⟩
    cases hfault <;> simp_all
  | some image =>
    rw [Option.bind_some]
    by_cases hu : ∃ e, o.Usable slot image e
    · obtain ⟨e, he⟩ := hu
      by_cases hslot : slot = .color
      · subst hslot
        obtain rfl : color = image := Option.some.inj (hc.symm.trans hi)
        rw [fault_iff_of_usable hi hc he he, if_pos rfl, fault?_of_usable he]
        simp
      · have hmem : .color ∈ slot.earlier := by cases slot <;> simp_all [Attachment.earlier]
        obtain ⟨r, hr⟩ : ∃ r, o.Usable .color color r := by
          by_contra hnone
          exact h .color hmem _ (.unusable hc (not_exists.mp hnone))
        rw [fault_iff_of_usable hi hc he hr, if_neg hslot, hc, Option.bind_some,
          fault?_of_usable_color he hr]
        split
        · simp_all [eq_comm]
        · split <;> simp_all [eq_comm]
    · have hnone := not_exists.mp hu
      rw [fault_iff_of_not_usable hi hnone, fault?_of_not_usable hnone, Option.some.injEq, eq_comm]

theorem Fault.ne_complete {s : Status} (h : o.Fault f slot s) : s ≠ .complete := by
  cases h <;> exact nofun

/-- Where there is a fault, there is a first one. -/
theorem exists_firstFault {s : Status} (h : o.Fault f slot s) :
    ∃ slot s, o.FirstFault f slot s := by
  by_cases hc : ∃ t, o.Fault f .color t
  · obtain ⟨t, ht⟩ := hc
    exact ⟨.color, t, ht, nofun⟩
  have hcolor := not_exists.mp hc
  by_cases hd : ∃ t, o.Fault f .depth t
  · obtain ⟨t, ht⟩ := hd
    exact ⟨.depth, t, ht, List.forall_mem_singleton.mpr hcolor⟩
  have hdepth := not_exists.mp hd
  cases slot with
  | color => exact absurd h (hcolor s)
  | depth => exact absurd h (hdepth s)
  | stencil =>
    exact ⟨.stencil, s, h, List.forall_mem_cons.mpr ⟨hcolor, List.forall_mem_singleton.mpr hdepth⟩⟩

/-- The check reports the first fault. -/
theorem FirstFault.status_eq {s : Status} (h : o.FirstFault f slot s) (hcolor : f.color ≠ none) :
    o.status f = s := by
  have hfound : o.faultIn? f slot = some s := (fault_iff_faultIn? hcolor h.sound).mp h.fault
  have hnone : ∀ before ∈ slot.earlier, o.faultIn? f before = none := by
    intro before hmem
    have hsound : ∀ t, ¬ o.Fault f before t := h.sound before hmem
    have hbefore : ∀ x ∈ before.earlier, ∀ t, ¬ o.Fault f x t :=
      fun x hx => h.sound x (Attachment.earlier_trans hx hmem)
    exact Option.eq_none_iff_forall_ne_some.mpr fun t ht =>
      hsound t ((fault_iff_faultIn? hcolor hbefore).mpr ht)
  rw [Objects.status_eq hcolor]
  cases slot with
  | color => rw [hfound]; rfl
  | depth => rw [hnone .color List.mem_cons_self, hfound]; rfl
  | stencil =>
    rw [hnone .color List.mem_cons_self, hnone .depth (List.mem_cons_of_mem _ List.mem_cons_self),
      hfound]
    rfl

/-- The check reports a framebuffer complete just when it is. -/
theorem status_eq_complete_iff : o.status f = .complete ↔ o.IsComplete f := by
  by_cases hcolor : f.color = none
  · have hmissing : o.status f = .missingAttachment := by simp only [status, hcolor]
    rw [hmissing]
    exact ⟨nofun, fun h => absurd hcolor h.color⟩
  constructor
  · intro h
    refine isComplete_iff.mpr ⟨hcolor, fun slot s hfault => ?_⟩
    obtain ⟨slot, t, hfirst⟩ := exists_firstFault hfault
    exact hfirst.fault.ne_complete ((hfirst.status_eq hcolor).symm.trans h)
  · intro h
    obtain ⟨-, hsound⟩ := isComplete_iff.mp h
    have hnone (slot : Attachment) : o.faultIn? f slot = none :=
      Option.eq_none_iff_forall_ne_some.mpr fun t ht =>
        hsound slot t ((fault_iff_faultIn? hcolor fun x _ => hsound x).mpr ht)
    rw [Objects.status_eq hcolor, hnone, hnone, hnone]
    rfl

/-- Any other report is the first fault. -/
theorem status_eq_iff (hcolor : f.color ≠ none) {s : Status} (hs : s ≠ .complete) :
    o.status f = s ↔ ∃ slot, o.FirstFault f slot s := by
  constructor
  · rintro rfl
    have hfault : ∃ slot t, o.Fault f slot t := by
      by_contra hnone
      have hcomplete : o.IsComplete f :=
        isComplete_iff.mpr ⟨hcolor, fun slot t h => hnone ⟨slot, t, h⟩⟩
      exact hs (status_eq_complete_iff.mpr hcomplete)
    obtain ⟨_, _, hfault⟩ := hfault
    obtain ⟨slot, t, hfirst⟩ := exists_firstFault hfault
    rw [hfirst.status_eq hcolor]
    exact ⟨slot, hfirst⟩
  · rintro ⟨slot, hfirst⟩
    exact hfirst.status_eq hcolor

end Objects

namespace Driver

/-- What a driver that pretends no status reports of what is drawn to. The display is complete, and
so is a framebuffer if it is there and `IsComplete`. Else the driver reports that it does not know
the name, that there is no colour image, or the first fault. -/
theorem status_judged (d : Driver) (hp : d.pretence.status = none) :
    (d.status = .complete ↔
      d.bindings.draw = none ∨
        ∃ id f, d.bindings.draw = some id ∧ d.objects.framebuffers.get? id = some f ∧
          d.objects.IsComplete f) ∧
    ∀ id, d.bindings.draw = some id →
      (d.objects.framebuffers.get? id = none → d.status = .unsupported) ∧
      ∀ f, d.objects.framebuffers.get? id = some f →
        (f.color = none → d.status = .missingAttachment) ∧
        (f.color ≠ none → ∀ s, s ≠ .complete →
          (d.status = s ↔ ∃ slot, d.objects.FirstFault f slot s)) := by
  have hbound {id : FramebufferId} (hd : d.bindings.draw = some id) : d.status =
      ((d.objects.framebuffers.get? id).map d.objects.status).getD .unsupported := by
    cases hf : d.objects.framebuffers.get? id <;> simp [status, hd, hp, hf]
  refine ⟨?_, fun id hd => ⟨fun hf => ?_, fun f hf => ⟨fun hcolor => ?_, fun hcolor s hs => ?_⟩⟩⟩
  · cases hd : d.bindings.draw with
    | none => simp [status, hd]
    | some id =>
      rw [hbound hd]
      cases hf : d.objects.framebuffers.get? id with
      | none => simp [hf]
      | some f => simp [hf, Objects.status_eq_complete_iff]
  · rw [hbound hd, hf]
    rfl
  · rw [hbound hd, hf]
    simp only [Option.map_some, Option.getD_some, Objects.status, hcolor]
  · rw [hbound hd, hf]
    exact Objects.status_eq_iff hcolor hs

/-- A texture with a packed store of another size and with more samples: it is the size that is
reported, and for depth, which comes before stencil. -/
theorem status_judged_of_small_store :
    let calls : List Call := [.create .texture, .bindTexture .texture2d (some ⟨1⟩),
      .textureImage .texture2d ⟨4, 4⟩, .create .renderbuffer, .bindRenderbuffer (some ⟨2⟩),
      .renderbufferStorage .depth24Stencil8 4 ⟨2, 4⟩, .create .framebuffer,
      .bindFramebuffer .both (some ⟨3⟩), .attachTexture .color .texture2d ⟨1⟩,
      .attachRenderbuffer .depth ⟨2⟩, .attachRenderbuffer .stencil ⟨2⟩]
    let d := calls.foldl perform (create .full)
    d.pretence.status = none ∧ d.status = .incompleteDimensions ∧
      ∃ slot, d.objects.FirstFault
        ⟨some (.texture ⟨1⟩), some (.renderbuffer ⟨2⟩), some (.renderbuffer ⟨2⟩)⟩ slot
        .incompleteDimensions := by
  intro calls d
  have hstatus : d.status = .incompleteDimensions := by decide
  obtain ⟨-, hjudged⟩ := status_judged d rfl
  obtain ⟨-, hframebuffer⟩ := hjudged ⟨3⟩ rfl
  obtain ⟨-, hfirst⟩ := hframebuffer _ rfl
  exact ⟨rfl, hstatus, (hfirst (by decide) .incompleteDimensions nofun).mp hstatus⟩

end Driver

end Compositor
