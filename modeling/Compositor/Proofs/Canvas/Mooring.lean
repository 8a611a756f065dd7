import Compositor.Proofs.Buffer.Ensuring
import Compositor.Proofs.Canvas.Drawing
import Compositor.Proofs.Device.Incident

/-!
# What is bound

A canvas is moored if the driver reads from and draws to the framebuffer that counts as the screen,
or the display without one, and if the framebuffers of its set are live. Making and deleting sets,
frames, draws and readback bind framebuffers in many places, and the backing notes each time which
one it was; here it is shown that the two never part.
-/

namespace Compositor

/-- A call that binds and deletes no framebuffer leaves the framebuffers live. -/
theorem Driver.live_framebuffer_perform {d : Driver} {c : Call} (hc : c.setsFramebuffer = false)
    {id : FramebufferId} (hx : d.objects.Live id.handle) :
    (d.perform c).objects.Live id.handle := by
  refine live_perform (fun hd => ?_) hx
  cases c with
  | deleteFramebuffer id' => cases hc
  | _ => cases hd

namespace Device

/-- The driver reads from and draws to a framebuffer, or the display. -/
structure Binds (d : Device) (id? : Option FramebufferId) : Prop where
  read : d.driver.bindings.read = id?
  draw : d.driver.bindings.draw = id?

variable {d e : Device} {id? : Option FramebufferId}

/-- The framebuffers that are live stay so, and the same ones are bound. -/
structure SparesFramebuffers (d e : Device) : Prop where
  read : e.driver.bindings.read = d.driver.bindings.read
  draw : e.driver.bindings.draw = d.driver.bindings.draw
  live : ∀ id : FramebufferId, d.Live id.handle → e.Live id.handle

theorem SparesFramebuffers.trans {f : Device} (h : d.SparesFramebuffers e)
    (h' : e.SparesFramebuffers f) : d.SparesFramebuffers f :=
  ⟨h'.read.trans h.read, h'.draw.trans h.draw, fun id hx => h'.live id (h.live id hx)⟩

theorem sparesFramebuffers_of_perform {c : Call} (hc : c.setsFramebuffer = false)
    (he : e.driver = d.driver.perform c) : d.SparesFramebuffers e := by
  obtain ⟨hread, hdraw⟩ := d.driver.framebuffers_perform hc
  refine ⟨by rw [he, hread], by rw [he, hdraw], fun id hx => ?_⟩
  rw [Live, he]
  exact Driver.live_framebuffer_perform hc hx

theorem sparesFramebuffers_performAll (d : Device) {calls : List Call}
    (hc : ∀ c ∈ calls, c.setsFramebuffer = false) : d.SparesFramebuffers (d.performAll calls) := by
  induction calls generalizing d with
  | nil => exact ⟨rfl, rfl, fun _ hx => hx⟩
  | cons c calls ih =>
    obtain ⟨hfirst, hrest⟩ := List.forall_mem_cons.mp hc
    exact (sparesFramebuffers_of_perform hfirst rfl).trans (ih (d.perform c) hrest)

theorem sparesFramebuffers_attempt (d : Device) (what : Creation) :
    d.SparesFramebuffers (d.attempt what).2 := by
  unfold attempt
  dsimp only
  split
  · exact ⟨rfl, rfl, fun _ hx => hx⟩
  · exact sparesFramebuffers_of_perform (c := .create what) rfl rfl

theorem sparesFramebuffers_compile (d : Device) (id : ShaderId) (source : String) :
    d.SparesFramebuffers (d.compile id source).2 := by
  obtain ⟨during, after, h⟩ := d.compile_driver id source
  refine ⟨by rw [h]; rfl, by rw [h]; rfl, fun id' hx => ?_⟩
  exact (d.live_compile id source id'.handle).mpr hx

/-- While nobody else binds or deletes framebuffers, only the loss of the context disturbs them. -/
theorem sparesFramebuffers_undergo (d : Device) {i : Incident}
    (hcall : ∀ c, i = .call c → c.setsFramebuffer = false) (hlose : i ≠ .loseContext) :
    d.SparesFramebuffers (d.undergo i) := by
  cases i with
  | call c => exact sparesFramebuffers_of_perform (hcall c rfl) rfl
  | attempt what => exact d.sparesFramebuffers_attempt what
  | compile id source => exact d.sparesFramebuffers_compile id source
  | loseContext => exact absurd rfl hlose
  | _ => exact ⟨rfl, rfl, fun _ hx => hx⟩

theorem Binds.spare (h : d.Binds id?) (hs : d.SparesFramebuffers e) : e.Binds id? :=
  ⟨hs.read.trans h.read, hs.draw.trans h.draw⟩

theorem Binds.stage (h : d.Binds id?) (hs : d.SameStage e) : e.Binds id? :=
  ⟨hs.read.trans h.read, hs.draw.trans h.draw⟩

/-- What was bound last is bound after calls that bind nothing else. -/
theorem binds_performAll (d : Device) (id? : Option FramebufferId) (calls : List Call)
    (hc : ∀ c ∈ calls, c.setsFramebuffer = false) :
    (d.performAll (.bindFramebuffer .both id? :: calls)).Binds id? :=
  Binds.spare (d := d.perform (.bindFramebuffer .both id?)) ⟨rfl, rfl⟩
    (sparesFramebuffers_performAll _ hc)

/-- A framebuffer that is deleted is not bound any more. -/
theorem Binds.deletion (h : d.Binds id?) (part : Part) :
    ∃ left?, (d.perform part.deletion).Binds left? ∧
      ∀ id, left? = some id → id? = some id ∧ part ≠ .framebuffer id := by
  obtain ⟨hread, hdraw⟩ := h
  cases part with
  | texture id => exact ⟨id?, ⟨hread, hdraw⟩, fun _ he => ⟨he, nofun⟩⟩
  | renderbuffer id => exact ⟨id?, ⟨hread, hdraw⟩, fun _ he => ⟨he, nofun⟩⟩
  | framebuffer id =>
    by_cases he : id? = some id
    · refine ⟨none, ⟨if_pos (hread.trans he), if_pos (hdraw.trans he)⟩, nofun⟩
    · refine ⟨id?, ⟨(if_neg ?_).trans hread, (if_neg ?_).trans hdraw⟩, fun id' he' => ⟨he', ?_⟩⟩
      · rwa [hread]
      · rwa [hdraw]
      · rintro ⟨⟩
        exact he he'

/-- Once all parts are deleted, none of their framebuffers is bound. -/
theorem Binds.deletions (h : d.Binds id?) {parts : List Part}
    (hid : ∀ id, id? = some id → Part.framebuffer id ∈ parts) :
    (d.performAll (parts.map Part.deletion)).Binds none := by
  induction parts generalizing d id? with
  | nil =>
    cases id? with
    | none => exact h
    | some id => cases hid id rfl
  | cons part parts ih =>
    obtain ⟨left?, hleft, hrest⟩ := h.deletion part
    refine ih hleft fun id he => ?_
    obtain ⟨hbound, hne⟩ := hrest id he
    exact (List.mem_cons.mp (hid id hbound)).resolve_left fun heq => hne heq.symm

end Device

namespace BufferSet

/-- The framebuffers that may count as the screen. -/
def screens (s : BufferSet) : List FramebufferId := [s.framebuffer, s.target]

theorem mem_parts_of_screens {s : BufferSet} {id : FramebufferId} (h : id ∈ s.screens) :
    Part.framebuffer id ∈ s.parts := by
  rcases List.mem_pair.mp h with rfl | rfl
  · simp [parts]
  · cases hm : s.multisample <;> simp [parts, target, hm]

theorem handle_mem_of_screens {s : BufferSet} {id : FramebufferId} (h : id ∈ s.screens) :
    id.handle ∈ s.handles :=
  List.mem_map.mpr ⟨.framebuffer id, mem_parts_of_screens h, rfl⟩

end BufferSet

namespace Backing

variable {b : Backing} {set : BufferSet}

theorem screen?_eq_none (h : b.set? = none) : b.screen? = none := by
  cases b with
  | ready set focus => cases h
  | _ => rfl

theorem exists_screens {id : FramebufferId} (h : b.screen? = some id) :
    ∃ set, b.set? = some set ∧ id ∈ set.screens := by
  cases b with
  | ready set focus =>
    refine ⟨set, rfl, ?_⟩
    cases focus <;> cases h <;> simp [BufferSet.screens]
  | _ => cases h

theorem screen?_focusOn_multisample (h : b.set? = some set) :
    (b.focusOn .multisample).screen? = some set.target := by
  cases b <;> cases h
  rfl

variable {d : Device} {id? : Option FramebufferId}

/-- The set that is deleted takes its framebuffers out of the bindings. -/
theorem binds_destroy (h : d.Binds id?)
    (hid : ∀ id, id? = some id → ∃ set, b.set? = some set ∧ id ∈ set.screens) :
    (b.destroy d).2.Binds none := by
  rw [device_destroy]
  cases hset : b.set? with
  | none =>
    obtain rfl : id? = none := Option.eq_none_iff_forall_ne_some.mpr fun id he => by
      obtain ⟨set, hsome, -⟩ := hid id he
      rw [hset] at hsome
      cases hsome
    exact h
  | some set =>
    refine h.deletions fun id he => ?_
    obtain ⟨set', hsome, hmem⟩ := hid id he
    obtain rfl : set = set' := Option.some.inj (hset.symm.trans hsome)
    exact BufferSet.mem_parts_of_screens hmem

/-- A set that goes with the context is deleted when it does not serve. -/
theorem binds_discard (h : d.Binds id?)
    (hid : ∀ id, id? = some id → ∃ set, b.set? = some set ∧ id ∈ set.screens) {owner : Context}
    (ho : ∀ set, b.set? = some set → set.order.owner.compatible owner = true) :
    (b.discard owner d).2.Binds none := by
  have hdestroy := binds_destroy h hid
  rw [device_destroy] at hdestroy
  rw [device_discard]
  cases hset : b.set? with
  | none => rwa [hset] at hdestroy
  | some set =>
    rw [hset] at hdestroy
    dsimp only at hdestroy ⊢
    rwa [if_pos (ho set hset)]

end Backing

/-- A set that could not be made leaves the display bound. -/
theorem BufferSet.binds_make_error {order : Order} {layout : Layout} {d e : Device}
    {failure : Failure} (h : make order layout d = (.error failure, e)) : e.Binds none := by
  unfold make at h
  split at h
  · cases h
  · cases h
    rename_i w hw
    rw [Workbench.release, Device.performAll_append]
    exact (w.device.binds_performAll none [.bindRenderbuffer none]
      (by simp [Call.setsFramebuffer])).deletions fun _ he => by cases he

namespace Canvas

/-- What is bound is what counts as the screen, and it is live. -/
structure Moored (c : Canvas) : Prop where
  bound : c.device.Binds c.backing.screen?
  live : ∀ set, c.backing.set? = some set → ∀ id ∈ set.screens, c.device.Live id.handle

variable {c c' : Canvas}

theorem Moored.live_screen (h : c.Moored) {id : FramebufferId}
    (hid : c.backing.screen? = some id) : c.device.Live id.handle := by
  obtain ⟨set, hset, hmem⟩ := Backing.exists_screens hid
  exact h.live set hset id hmem

theorem backing_draw (purpose : Purpose) (context : Context)
    (calls? : BuiltProgram → Option (List Call)) :
    (c.draw purpose context calls?).2.backing = c.backing := by
  unfold draw
  dsimp only
  split <;> rfl

theorem backing_fill (context : Context) (surface : Size) (color : Rgba) (region : Rect) :
    (c.fill context surface color region).2.backing = c.backing := by
  rw [fill_eq]
  split
  · rfl
  · rw [backing_countDone, backing_draw]

theorem backing_drawPatch (context : Context) (surface : Size) (patch : TexturePatch) :
    (c.drawPatch context surface patch).2.backing = c.backing := by
  unfold drawPatch
  split
  · rfl
  · exact backing_draw _ _ _

theorem backing_drawTexture (context : Context) (surface : Size) (patch : TexturePatch) :
    (c.drawTexture context surface patch).2.backing = c.backing := by
  rw [drawTexture_eq, backing_countDone, backing_drawPatch]

/-- Without a set a canvas is moored to the display. -/
theorem moored_of_none (hb : c.device.Binds none) (hset : c.backing.set? = none) : c.Moored := by
  refine ⟨?_, by rw [hset]; exact nofun⟩
  rw [Backing.screen?_eq_none hset]
  exact hb

namespace Moored

/-- A step that keeps the set and leaves the right framebuffer bound. -/
theorem step (h : c.Moored) {new : List Handle} (hg : c.device.Grows c'.device new)
    (hset : c'.backing.set? = c.backing.set?) (hb : c'.device.Binds c'.backing.screen?) :
    c'.Moored := by
  refine ⟨hb, fun set he id hid => (hg.live _).mpr (Or.inl ?_)⟩
  exact h.live set (hset.symm.trans he) id hid

/-! ## Draws, frames and readback -/

/-- A step that binds nothing. -/
theorem stage (h : c.Moored) {new : List Handle} (hg : c.device.Grows c'.device new)
    (hb : c'.backing = c.backing) (hs : c.device.SameStage c'.device) : c'.Moored :=
  h.step hg (by rw [hb]) (by rw [hb]; exact h.bound.stage hs)

theorem beginFrame (h : c.Moored) (hr : c.device.driver.objects.Regular) :
    c.beginFrame.Moored := by
  have hi := idles_beginFrame hr
  refine h.step hi.grows hi.set ?_
  unfold Canvas.beginFrame
  cases hset : c.backing.set? with
  | none => exact h.bound
  | some set =>
    dsimp only
    have hb := c.device.binds_performAll (some set.target) [.drawBuffer .color]
      (by simp [Call.setsFramebuffer])
    cases hm : set.multisample with
    | some m =>
      rw [Option.isSome_some, if_pos rfl, Backing.screen?_focusOn_multisample hset]
      exact hb
    | none =>
      have htarget : set.target = set.framebuffer := by rw [BufferSet.target, hm]
      rw [Option.isSome_none, if_neg Bool.false_ne_true, Backing.screen?_focusOn_color hset,
        ← htarget]
      exact hb

/-- The framebuffer of the texture is bound last, and it counts as the screen from then on. -/
theorem focus (h : c.Moored) {new : List Handle} {set : BufferSet} (v : Canvas) (calls : List Call)
    (hcalls : ∀ call ∈ calls, call.setsFramebuffer = false) (hset : c.backing.set? = some set)
    (hd : c'.device = v.device.performAll (.bindFramebuffer .both (some set.framebuffer) :: calls))
    (hb : c'.backing = v.backing.focusOn .color) (hg : c.device.Grows c'.device new)
    (hkept : c'.backing.set? = c.backing.set?) : c'.Moored := by
  have hv : v.backing.set? = some set := by
    rw [← hset, ← hkept, hb, Backing.set?_focusOn]
  refine h.step hg hkept ?_
  rw [hd, hb, Backing.screen?_focusOn_color hv]
  exact Device.binds_performAll _ _ _ hcalls

theorem endFrame (h : c.Moored) (hr : c.device.driver.objects.Regular) (surface : Size)
    (context : Context) : (c.endFrame surface context).Moored := by
  obtain ⟨new, hw⟩ := works_endFrame hr surface context
  cases hset : c.backing.set? with
  | none =>
    rw [endFrame_of_none hset]
    exact h
  | some set =>
    have hv := endFrame_of_set hset surface context
    exact h.focus _ [] (List.forall_mem_nil _) hset (congrArg Canvas.device hv)
      (congrArg Canvas.backing hv) hw.grows hw.set

theorem readback (h : c.Moored) (hr : c.device.driver.objects.Regular) :
    c.readback.2.Moored := by
  have hi := idles_readback hr
  cases hset : c.backing.set? with
  | none =>
    rw [readback_of_none hset]
    exact h
  | some set =>
    have hv := congrArg Prod.snd (readback_of_set hset)
    refine h.focus (c.resolve set) _ ?_ hset (congrArg Canvas.device hv)
      (congrArg Canvas.backing hv) hi.grows hi.set
    simp [Call.setsFramebuffer]

theorem fill (h : c.Moored) (hr : c.device.driver.objects.Regular) (context : Context)
    (surface : Size) (color : Rgba) (region : Rect) :
    (c.fill context surface color region).2.Moored := by
  obtain ⟨new, hw⟩ := works_fill hr context surface color region
  exact h.stage hw.grows (backing_fill context surface color region)
    (stage_fill hr context surface color region)

theorem drawTexture (h : c.Moored) (hr : c.device.driver.objects.Regular) (context : Context)
    (surface : Size) (patch : TexturePatch) : (c.drawTexture context surface patch).2.Moored := by
  obtain ⟨new, hw⟩ := works_drawTexture hr context surface patch
  exact h.stage hw.grows (backing_drawTexture context surface patch)
    (stage_drawTexture hr context surface patch)

/-! ## Steps that leave framebuffers alone -/

theorem spare (h : c.Moored) (hb : c'.backing = c.backing)
    (hs : c.device.SparesFramebuffers c'.device) : c'.Moored := by
  refine ⟨by rw [hb]; exact h.bound.spare hs, fun set hset id hid => hs.live id ?_⟩
  rw [hb] at hset
  exact h.live set hset id hid

theorem sample {α : Type} (h : c.Moored) (surface : Size) (x y : Nat)
    {read : Device → Nat → Nat → α × Device}
    (hread : ∀ d row, ∃ call : Call,
      call.setsFramebuffer = false ∧ (read d x row).2 = d.perform call) :
    (c.sample surface x y read).2.Moored := by
  obtain hs | ⟨row, hs⟩ := c.sample_cases surface x y read
  all_goals rw [hs]
  · exact h
  · obtain ⟨call, hc, hd⟩ := hread c.device row
    exact h.spare rfl (Device.sparesFramebuffers_of_perform hc (congrArg Device.driver hd))

/-! ## Sets given up and made -/

theorem destroy (h : c.Moored) : c.destroy.Moored :=
  moored_of_none (Backing.binds_destroy h.bound fun _ hid => Backing.exists_screens hid)
    (Backing.set?_destroy _ _)

theorem ensure (h : c.Moored) (hr : c.device.driver.objects.Regular) {order : Order}
    (caps : Capabilities) (ho : ∀ set, c.backing.set? = some set →
      set.order.owner.compatible order.owner = true) :
    (c.ensure order caps).2.Moored := by
  unfold Canvas.ensure
  cases hs : c.backing.serves order with
  | true =>
    rw [Backing.ensure_of_serves hs]
    exact h
  | false =>
    have hd := (c.backing.drops_discard order.owner c.device).1.edits.regular hr
    have hb := Backing.binds_discard h.bound (fun _ hid => Backing.exists_screens hid) ho
    rw [Backing.ensure_of_not_serves hs]
    cases order.layout caps with
    | error failure => exact moored_of_none hb (Backing.set?_discard _ _ _)
    | ok layout =>
      dsimp only
      rcases hm : BufferSet.make order layout (c.backing.discard order.owner c.device).2 with
        ⟨failure | set, e⟩
      · exact moored_of_none (BufferSet.binds_make_error hm) rfl
      · have hmade := BufferSet.made_of_make hd hm
        refine ⟨⟨?_, ?_⟩, fun set' hset id hid => ?_⟩
        · exact congrArg Bindings.read hmade.bindings
        · exact congrArg Bindings.draw hmade.bindings
        · cases hset
          exact (hmade.grows.live _).mpr (Or.inr (BufferSet.handle_mem_of_screens hid))

end Moored

end Canvas

end Compositor
