import Compositor.Proofs.Buffer.Ensuring
import Compositor.Proofs.Canvas.Presenting
import Compositor.Proofs.Device.Counting

/-!
# What sets and frames cost

A buffer set costs five objects with several samples and three with one. The end of a frame on a set
costs one link if the program that shows the texture has to be built, and nothing else.
-/

namespace Compositor

/-! ## Sets -/

namespace Build

variable {α β : Type} {n k : Nat}

/-- If the step succeeds, it has made so many objects of buffer sets and linked nothing. -/
def Makes (m : Build α) (n : Nat) : Prop :=
  ∀ w, m.Meets w (fun _ w' => w.device.Costs w'.device n 0) fun _ _ => True

theorem makes_pure (a : α) : (pure a : Build α).Makes 0 := fun w => meets_pure (.refl w.device)

theorem Makes.bind {m : Build α} {f : α → Build β} (hm : m.Makes k) (hf : ∀ a, (f a).Makes n) :
    (m >>= f).Makes (n + k) := fun w =>
  meets_bind ((hm w).mono fun a w₁ h => (hf a w₁).mono fun _ _ h' => by
    rw [Nat.add_comm]
    exact h.trans h')

theorem tell_then {calls : List Call} (hc : ∀ c ∈ calls, c.isFree = true) {f : Unit → Build α}
    (hf : ∀ a, (f a).Makes n) : (tell calls >>= f).Makes n := fun w =>
  meets_bind (meets_tell ((hf _ _).mono fun _ _ h => h.after (w.device.costs_performAll hc)))

theorem check_then {f : Unit → Build α} (hf : ∀ a, (f a).Makes n) : (check >>= f).Makes n :=
  fun w => meets_bind (meets_check (fun _ => hf _ w) fun _ => trivial)

theorem make_then {what : Creation} (hb : what.isBuffer = true)
    {part : ObjectId what.kind → Part} {f : ObjectId what.kind → Build α}
    (hf : ∀ a, (f a).Makes n) : (make what part >>= f).Makes (n + 1) := by
  intro w
  refine meets_bind (meets_make (fun name e ha => ?_) fun _ _ _ => trivial)
  have hcosts := Device.costs_attempt ha
  rw [hb] at hcosts
  rw [Nat.add_comm]
  exact (hf _ _).mono fun _ _ h => hcosts.trans h

theorem makes_colorTarget (size : Size) : (colorTarget size).Makes 2 := by
  unfold colorTarget
  refine make_then rfl fun texture => tell_then (by simp [Call.isFree]) fun _ => ?_
  refine make_then rfl fun framebuffer => tell_then (by simp [Call.isFree]) fun _ => ?_
  exact check_then fun _ => makes_pure _

theorem makes_multisampleTarget (layout : Layout) : (multisampleTarget layout).Makes 2 := by
  unfold multisampleTarget
  refine make_then rfl fun framebuffer => tell_then (by simp [Call.isFree]) fun _ => ?_
  exact make_then rfl fun color => tell_then (by simp [Call.isFree]) fun _ => makes_pure _

theorem makes_depthStore (layout : Layout) : (depthStore layout).Makes 1 := by
  unfold depthStore
  refine make_then rfl fun store => tell_then (by simp [Call.isFree]) fun _ => ?_
  split <;> exact tell_then (by simp [Call.isFree]) fun _ => makes_pure _

end Build

/-- How many objects make up a set. -/
def Layout.partCount (l : Layout) : Nat := if l.isMultisample then 5 else 3

theorem Build.makes_bufferSet (order : Order) (layout : Layout) :
    (bufferSet order layout).Makes layout.partCount := by
  have hclearing : ∀ c ∈ clearingCalls, c.isFree = true := by decide
  have hclosing : ∀ c ∈ .bindRenderbuffer none :: clearingCalls, c.isFree = true :=
    List.forall_mem_cons.mpr ⟨rfl, hclearing⟩
  unfold bufferSet Layout.partCount
  cases layout.isMultisample with
  | false =>
    refine (makes_colorTarget layout.size).bind fun r => ?_
    refine (makes_depthStore layout).bind fun store => check_then fun _ => ?_
    exact tell_then hclosing fun _ => makes_pure _
  | true =>
    refine (makes_colorTarget layout.size).bind fun r => ?_
    refine (makes_multisampleTarget layout).bind fun m => ?_
    refine (makes_depthStore layout).bind fun store => check_then fun _ => ?_
    refine tell_then (List.forall_mem_append.mpr ⟨hclearing, by simp [Call.isFree]⟩) fun _ => ?_
    exact tell_then hclosing fun _ => makes_pure _

theorem BufferSet.costs_make {order : Order} {layout : Layout} {d e : Device} {s : BufferSet}
    (h : make order layout d = (.ok s, e)) : d.Costs e layout.partCount 0 := by
  have hm := Build.makes_bufferSet order layout ⟨d, []⟩
  unfold make at h
  unfold Build.Meets at hm
  rw [ExceptT.run] at h
  split at h
  · rename_i hb
    rw [hb] at hm
    cases h
    exact hm
  · cases h

/-- A set that is made where there was none. -/
theorem Backing.costs_ensure {b b' : Backing} {order : Order} {caps : Capabilities} {d e : Device}
    {layout : Layout} (hb : b.set? = none) (hl : order.layout caps = .ok layout)
    (h : b.ensure order caps d = (.ok (), b', e)) : d.Costs e layout.partCount 0 := by
  have hs : b.serves order = false := by rw [serves, hb]; rfl
  have hd : (b.discard order.owner d).2 = d := by rw [device_discard, hb]
  rw [ensure_of_not_serves hs, hl] at h
  dsimp only at h
  rw [hd] at h
  rcases hm : BufferSet.make order layout d with ⟨failure | set, d'⟩
  · rw [hm] at h
    cases h
  · rw [hm] at h
    cases h
    exact BufferSet.costs_make hm

/-! ## Programs and frames -/

theorem Device.costs_overlay (d : Device) {calls : List Call} (h : ∀ c ∈ calls, c.isFree = true) :
    d.Costs (d.overlay calls) 0 0 := by
  rw [overlay_eq]
  exact d.costs_performAll (forall_mem_overlay (fun _ => rfl) (fun _ => rfl) h _)

/-- What asking for a program costs, if it did not fail: a link if the program has to be built. -/
theorem ProgramCache.costs_entry {c c' : ProgramCache} {purpose : Purpose} {context : Context}
    {d e : Device} {entry : CachedProgram} (h : c.entry purpose context d = (entry, c', e))
    (hf : c'.failure? purpose = none) :
    d.Costs e 0 (if (c.usable? purpose context).isSome then 0 else 1) ∧
      (c'.usable? purpose context).isSome = true := by
  obtain ⟨hcached, howner⟩ := cached?_entry h
  refine ⟨?_, by rw [usable?, hcached, Option.filter_some_pos (by exact howner)]; rfl⟩
  obtain ⟨hu, rfl, -⟩ | ⟨failure | p, hu, hb, rfl, -⟩ := entry_cases h
  · rw [hu]
    exact .refl _
  · rw [failure?, hcached] at hf
    cases hf
  · rw [hu]
    exact Device.costs_buildProgram hb

namespace Canvas

variable {c : Canvas} {context : Context}

/-- The canvas `c'` is `c` after something that asked for the program for a purpose. -/
structure Asks (c c' : Canvas) (purpose : Purpose) (context : Context) : Prop where
  costs : c.device.Costs c'.device 0
    (if (c.programs.usable? purpose context).isSome then 0 else 1)
  usable : (c'.programs.usable? purpose context).isSome = true

theorem asks_draw {purpose : Purpose} {calls? : BuiltProgram → Option (List Call)}
    (hq : ∀ p calls, calls? p = some calls → ∀ call ∈ calls, call.isQuiet = true)
    (hf : (c.draw purpose context calls?).2.programs.failure? purpose = none) :
    c.Asks (c.draw purpose context calls?).2 purpose context := by
  obtain ⟨entry, programs, device, he, hcases⟩ := c.draw_cases purpose context calls?
  obtain ⟨-, hd⟩ | ⟨p, calls, -, hp, hd⟩ := hcases
  all_goals
    rw [hd] at hf ⊢
    obtain ⟨hcosts, husable⟩ := ProgramCache.costs_entry he hf
  · exact ⟨hcosts, husable⟩
  · refine ⟨hcosts.before (device.costs_overlay fun call hc => ?_), husable⟩
    exact Call.isFree_of_isQuiet (hq p calls hp call hc)

theorem asks_drawPatch {surface : Size} {patch : TexturePatch}
    (hn : (surface.isEmpty || patch.textureSize.isEmpty || patch.region.isDegenerate) = false)
    (hf : (c.drawPatch context surface patch).2.programs.failure? (.textured patch.target) = none) :
    c.Asks (c.drawPatch context surface patch).2 (.textured patch.target) context := by
  unfold drawPatch at hf ⊢
  rw [if_neg (by rw [hn]; exact Bool.false_ne_true)] at hf ⊢
  exact asks_draw (fun p calls => p.isQuiet_texturingCalls surface patch) hf

theorem costs_resolve (c : Canvas) (set : BufferSet) :
    c.device.Costs (c.resolve set).device 0 0 := by
  unfold resolve
  split
  · exact .refl _
  · exact c.device.costs_performAll (by simp [Call.isFree])

theorem costs_beginFrame (c : Canvas) : c.device.Costs c.beginFrame.device 0 0 := by
  unfold beginFrame
  split
  · exact .refl _
  · exact c.device.costs_performAll (by simp [Call.isFree])

theorem books_beginFrame (c : Canvas) :
    c.beginFrame.statistics = c.statistics ∧ c.beginFrame.programs = c.programs := by
  unfold beginFrame
  split <;> exact ⟨rfl, rfl⟩

/-- The end of a frame on a set asks for the program that shows the texture. -/
theorem asks_endFrame {set : BufferSet} {surface : Size} (hset : c.backing.set? = some set)
    (hsurface : surface.isEmpty = false) (hlayout : set.layout.size.isEmpty = false)
    (hf : (c.endFrame surface context).programs.failure? (.textured .texture2d) = none) :
    c.Asks (c.endFrame surface context) (.textured .texture2d) context := by
  rw [endFrame_of_set hset] at hf ⊢
  have hprepared : c.device.Costs ((c.resolve set).performAll showingCalls).device 0 0 :=
    (Device.costs_performAll _ (by simp [showingCalls, Call.isFree])).after (c.costs_resolve set)
  have hprograms : ((c.resolve set).performAll showingCalls).programs = c.programs := by
    unfold resolve
    split <;> rfl
  have hn : (surface.isEmpty || set.layout.size.isEmpty ||
      (Rect.ofSize surface.width surface.height).isDegenerate) = false := by
    rw [hsurface, hlayout, Rect.isDegenerate_ofSize hsurface]
    rfl
  have hpresented : (c.present set surface context).2.programs.failure? (.textured .texture2d) =
      none := hf
  rw [present, programs_countDone] at hpresented
  obtain ⟨hcosts, husable⟩ := asks_drawPatch hn hpresented
  rw [hprograms, ← device_countDone] at hcosts
  rw [← programs_countDone] at husable
  have hfree : ∀ call ∈ [Call.bindFramebuffer .both (some set.framebuffer)],
      call.isFree = true := by
    simp [Call.isFree]
  have hlast := (c.present set surface context).2.device.costs_performAll hfree
  exact ⟨(hcosts.after hprepared).before hlast, husable⟩

end Canvas

end Compositor
