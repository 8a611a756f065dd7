import Compositor.Proofs.Canvas.Presenting
import Compositor.Proofs.Device.Attaching
import Compositor.Proofs.Surface.Running

/-!
# Parts in their places

The texture, the framebuffers and the renderbuffers of a set are attached to each other when the set
is made, and stay so. Nothing is asked of the order of operations here: contexts may be reported
that are not current, things may be drawn before the first report, and the driver may fail at any
time. Parts may go, but none is replaced by another one, as long as the application attaches nothing
to the colour slots of the framebuffers.
-/

namespace Compositor

open Numeric

/-- Whether a call attaches an image to a colour slot. -/
def Call.attachesColor : Call → Bool
  | attachTexture .color _ _ | attachRenderbuffer .color _ => true
  | _ => false

theorem Call.attachesColor_eq (c : Call) : c.attachesColor = c.attaches .color := by
  cases c with
  | attachTexture slot _ _ => cases slot <;> rfl
  | attachRenderbuffer slot _ => cases slot <;> rfl
  | _ => rfl

namespace Objects

variable {o p : Objects} {id : FramebufferId}

/-- The framebuffer has what it had in its colour slot, unless it is gone. -/
def KeepsColor (o p : Objects) (id : FramebufferId) : Prop :=
  ∀ f, p.framebuffers.get? id = some f →
    ∃ g, o.framebuffers.get? id = some g ∧ f.color = g.color

theorem KeepsSlot.keepsColor (h : o.KeepsSlot p id .color) : o.KeepsColor p id := h

end Objects

open Objects

namespace Surface

variable {s s' : Surface} {set : BufferSet}

/-- The application attaches no image to the colour slot of a framebuffer of the set. This is how
the state that it leaves the driver in is read: it may set masks, clear values and bindings as it
likes, paint, and delete what the surface holds, but it does not turn the set into another one. -/
def LeavesSlots (s : Surface) : Incident → Prop
  | .call call => call.attachesColor = true → ∀ set, s.canvas.backing.set? = some set →
    ∀ away, s.driver.bindings.draw ≠ some (set.bound away)
  | _ => True

/-- The parts of the set have names that were handed out, and are in their places as far as they are
live. -/
structure Hung (s : Surface) : Prop where
  regular : s.driver.objects.Regular
  issued : ∀ set, s.canvas.backing.set? = some set → ∀ x ∈ set.handles,
    x.name ≤ s.driver.objects.issued
  hangs : ∀ set, s.canvas.backing.set? = some set → set.Hangs s.driver.objects

theorem hung_start (profile : Profile) (settings : Settings) (policy : Policy) :
    (withPolicy profile settings policy).Hung :=
  ⟨regular_emptyAfter 0, nofun, nofun⟩

namespace Hung

/-! ## Steps -/

/-- The set stays, and its framebuffers keep their colour. -/
theorem keep (h : s.Hung) (hr : s'.driver.objects.Regular)
    (hb : s'.canvas.backing.set? = s.canvas.backing.set?)
    (hle : s.driver.objects.issued ≤ s'.driver.objects.issued)
    (hk : ∀ set, s.canvas.backing.set? = some set → ∀ away,
      s.driver.objects.KeepsColor s'.driver.objects (set.bound away)) : s'.Hung where
  regular := hr
  issued set hset x hx := Nat.le_trans (h.issued set (hb.symm.trans hset) x hx) hle
  hangs set hset away f hf := by
    obtain ⟨g, hg, hcolor⟩ := hk set (hb.symm.trans hset) away f hf
    rw [hcolor]
    exact h.hangs set (hb.symm.trans hset) away g hg

/-- Without a set nothing has a place. -/
theorem giveUp (hr : s'.driver.objects.Regular) (hb : s'.canvas.backing.set? = none) :
    s'.Hung := by
  refine ⟨hr, ?_, ?_⟩
  all_goals
    rw [hb]
    exact nofun

theorem bound_name_le (h : s.Hung) (hset : s.canvas.backing.set? = some set) (away : Bool) :
    (set.bound away).name ≤ s.driver.objects.issued :=
  h.issued set hset _ (set.handle_bound_mem away)

/-- Objects may be made. -/
theorem grow (h : s.Hung) {new : List Handle} (hg : s.canvas.device.Grows s'.canvas.device new)
    (hb : s'.canvas.backing.set? = s.canvas.backing.set?) : s'.Hung := by
  refine h.keep (hg.regular h.regular) hb hg.edits.issued_le fun set hset away => ?_
  exact (keepsSlot_of_outline (hg.outline _ (h.bound_name_le hset away))).keepsColor

/-- Objects may go. -/
theorem drop (h : s.Hung) {gone : List Handle} (hd : s.canvas.device.Drops s'.canvas.device gone)
    (hb : s'.canvas.backing.set? = s.canvas.backing.set?) : s'.Hung := by
  refine h.keep (hd.edits.regular h.regular) hb hd.edits.issued_le fun set _ away => ?_
  by_cases hlive : s'.canvas.device.Live (set.bound away).handle
  · exact (keepsSlot_of_outline (hd.outline ((hd.live _).mp hlive).2)).keepsColor
  · exact (keepsSlot_of_stored?_none (not_not.mp hlive)).keepsColor

/-- What is no part of the canvas does not matter. -/
theorem aside (h : s.Hung) (hc : s'.canvas = s.canvas) : s'.Hung := by
  have hg : s.canvas.device.Grows s'.canvas.device [] := by
    rw [hc]
    exact .refl _
  exact h.grow hg (by rw [hc])

theorem idle (h : s.Hung) {c : Canvas} (hi : s.canvas.Idles c) : Hung { s with canvas := c } :=
  h.grow hi.grows hi.set

theorem work (h : s.Hung) {c : Canvas} (hw : ∃ new, s.canvas.Works s.context c new) :
    Hung { s with canvas := c } := by
  obtain ⟨new, hw⟩ := hw
  exact h.grow hw.grows hw.set

/-! ## Operations -/

theorem adoptContext (h : s.Hung) (context : Context) : (s.adoptContext context).Hung := by
  obtain ⟨-, hcanvas⟩ | ⟨-, hcanvas⟩ := s.canvas_adoptContext context
  · exact h.aside hcanvas
  · refine giveUp ?_ (by rw [hcanvas]; rfl)
    rw [driver_adoptContext]
    exact h.regular

theorem resize (h : s.Hung) (size : Size) : (s.resize size).Hung :=
  giveUp ((s.canvas.backing.drops_destroy _).1.edits.regular h.regular) (Backing.set?_destroy _ _)

theorem release (h : s.Hung) : s.release.Hung := by
  have hprograms : Hung { s with canvas := s.canvas.releasePrograms s.context } :=
    h.drop (s.canvas.drops_releasePrograms s.context) rfl
  exact hprograms.resize s.size

theorem applySwapInterval (h : s.Hung) : s.applySwapInterval.Hung :=
  (h.idle (s.idles_applySwapInterval h.regular)).aside rfl

theorem setFrameRate (h : s.Hung) (rate : Single) : (s.setFrameRate rate).2.Hung :=
  setFrameRate_induct h (fun _ _ => h.aside rfl) fun _ h => h.applySwapInterval

theorem apply (h : s.Hung) (e : Event) : (s.apply e).Hung := by
  cases e with
  | adoptContext context => exact h.adoptContext context
  | resized size => exact h.resize size
  | frameRate rate => exact h.setFrameRate rate
  | teardown => exact h.release

theorem drain (h : s.Hung) : s.drain.Hung := by
  refine drain_induct (P := fun _ => Hung) h ?_ ?_
  · exact fun e _ _ h => h.apply e
  · exact fun _ h => h.aside rfl

/-- The parts of a set that was made are in their places. -/
theorem ensure (h : s.Hung) {outcome : Except Failure Unit}
    (he : s.onCanvas (s.canvas.ensure s.order s.capabilities) = (outcome, s')) : s'.Hung := by
  obtain ⟨b', e, hb, rfl⟩ := onCanvas_ensure he
  have hr := Backing.regular_ensure h.regular hb
  cases hserves : s.canvas.backing.serves s.order with
  | true =>
    rw [Backing.ensure_of_serves hserves] at hb
    cases hb
    exact h
  | false =>
    cases outcome with
    | error failure => exact giveUp hr (Backing.restored_of_ensure h.regular hb).1
    | ok =>
      obtain ⟨layout, set, -, rfl, hmade⟩ := Backing.made_of_ensure h.regular hserves hb
      have hintact := hmade.unpainted.intact hmade.multisample hmade.packed
      refine ⟨hr, fun set' hset x hx => ?_, fun set' hset => ?_⟩
      · cases hset
        exact hr.name_le x (hintact.live hx)
      · cases hset
        exact hintact.hangs

theorem update (h : s.Hung) : s.update.2.Hung := by
  refine update_induct h.drain ?_ ?_
  · exact fun _ h => h.applySwapInterval
  · exact fun _ _ _ h _ he => h.ensure he

theorem beginFrame (h : s.Hung) : s.beginFrame.2.Hung := by
  have hupdated := h.update
  obtain ⟨-, hb⟩ | ⟨-, hb⟩ := s.beginFrame_cases
  · rwa [hb]
  · rw [hb]
    exact (hupdated.idle (Canvas.idles_beginFrame hupdated.regular)).aside rfl

/-- Every operation leaves the parts in their places. -/
theorem operate (h : s.Hung) (op : Operation) : (s.operate op).Hung := by
  have hr := h.regular
  cases op with
  | openDrawable host => exact h.aside (s.openDrawable_eq host).1
  | adoptContext context => exact h.adoptContext context
  | resize size => exact h.resize size
  | setFrameRate rate => exact h.setFrameRate rate
  | send event => exact h.aside rfl
  | update => exact h.update
  | beginFrame => exact h.beginFrame
  | endFrame => exact (h.work (Canvas.works_endFrame hr s.size s.context)).aside rfl
  | fill color region => exact h.work (Canvas.works_fill hr s.context s.size color region)
  | drawTexture patch => exact h.work (Canvas.works_drawTexture hr s.context s.size patch)
  | readback => exact h.idle (Canvas.idles_readback hr)
  | sampleColor x y => exact h.idle (Canvas.idles_sampleColor hr s.size x y)
  | sampleDepth x y => exact h.idle (Canvas.idles_sampleDepth hr s.size x y)
  | sampleStencil x y => exact h.idle (Canvas.idles_sampleStencil hr s.size x y)
  | tearDown host => exact h.release.aside rfl

/-- What happens meanwhile may delete the parts, and puts nothing in their places. -/
theorem undergo (h : s.Hung) {i : Incident} (ha : s.LeavesSlots i) : (s.undergo i).Hung := by
  refine h.keep (Device.regular_undergo h.regular i) rfl (s.canvas.device.issued_le_undergo i)
    fun set hset away => ?_
  refine (Device.keepsSlot_undergo (h.bound_name_le hset away) fun hi => ?_).keepsColor
  cases i with
  | call call => exact ha (call.attachesColor_eq.trans hi.1) set hset away hi.2
  | _ => exact hi

end Hung

/-- Throughout every course in which the slots are left alone the parts of the set are in their
places. -/
theorem Course.hung {may : Surface → Operation → Prop} {s₀ : Surface}
    (h : Course may LeavesSlots s₀ s) (hs : s₀.Hung) : s.Hung := by
  induction h with
  | start => exact hs
  | operate _ _ ih => exact ih.operate _
  | undergo _ ha ih => exact ih.undergo ha

end Surface

end Compositor
