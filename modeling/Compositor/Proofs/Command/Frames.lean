import Compositor.Command.Run
import Compositor.Proofs.Surface.Steadying
import Mathlib.Algebra.Group.Nat.Defs

/-!
# The command that runs frames

What the command reports, in closed form. However many frames there are, the set is made once and
the program that shows it is built once, so only the counts of what was resolved and presented tell
how many they were.
-/

namespace Compositor

/-! ## Layouts of the named profiles -/

theorem Profile.capabilities_full : full.capabilities = ⟨true, true, true, true, 8⟩ := by
  decide +kernel

theorem Profile.capabilities_minimal :
    minimal.capabilities = ⟨false, false, false, false, 1⟩ := by
  decide

namespace Order

variable {o : Order}

/-- With every extension there is a layout for all orders. -/
theorem layout_full (h : o.size.isEmpty = false) :
    ∃ layout, o.layout Profile.full.capabilities = .ok layout ∧ layout.size = o.size ∧
      layout.isMultisample = decide (1 < o.samples) := by
  simp only [Size.isEmpty, Bool.or_eq_false_iff, decide_eq_false_iff_not] at h
  have hw : max o.size.width 1 = o.size.width := by omega
  have hh : max o.size.height 1 = o.size.height := by omega
  refine ⟨⟨o.size, Profile.full.capabilities.limitSamples o.samples, true⟩, ?_, rfl, ?_⟩
  · rw [Profile.capabilities_full, layout, Capabilities.canMultisample, Capabilities.imageSize?]
    simp [hw, hh]
  · -- a limit of eight keeps several samples several
    have height : effectiveSamples 8 = 8 := rfl
    rw [Profile.capabilities_full, Layout.isMultisample, Capabilities.limitSamples]
    dsimp only
    split
    · exact decide_eq_decide.mpr (by omega)
    · rfl

theorem layout_minimal_of_multisample (h : 1 < o.samples) :
    o.layout Profile.minimal.capabilities = .error .multisampleUnsupported := by
  rw [Profile.capabilities_minimal, layout, Capabilities.canMultisample]
  simp [h]

/-- With no extension and one sample there is a layout for all orders that are not too large. -/
theorem layout_minimal (h : o.samples = 1) :
    o.layout Profile.minimal.capabilities =
      if 2 ^ 31 < o.size.width ∨ 2 ^ 31 < o.size.height then
        .error (.config
          (toString o.size.width ++ "x" ++ toString o.size.height
            ++ " has no power-of-two texture size"))
      else .ok ⟨⟨2 ^ Nat.clog 2 o.size.width, 2 ^ Nat.clog 2 o.size.height⟩, 1, false⟩ := by
  rw [Profile.capabilities_minimal, layout, Capabilities.imageSize?_of_powersOfTwo rfl, h,
    if_neg (by decide)]
  by_cases hlarge : 2 ^ 31 < o.size.width ∨ 2 ^ 31 < o.size.height
  · rw [if_pos hlarge, if_pos hlarge]
  · rw [if_neg hlarge, if_neg hlarge]
    rfl

end Order

/-! ## Reports -/

namespace FramesReport

/-- What a run of frames comes to, said without running it. -/
def closedForm (profile : ProfileName) (settings : Settings) (size : Size) (count : Nat) :
    Except Failure FramesReport :=
  if count = 0 ∨ settings.drawsOffscreen = false ∨ size.width = 0 ∨ size.height = 0 then
    .ok ⟨settings.request, false, ⟨0, 0⟩, 0, 0, 0, 0, 0⟩
  else if profile = .minimal ∧ 1 < settings.samples then .error .multisampleUnsupported
  else if profile = .minimal ∧ (2 ^ 31 < size.width ∨ 2 ^ 31 < size.height) then
    .error (.config
      (toString size.width ++ "x" ++ toString size.height ++ " has no power-of-two texture size"))
  else .ok {
    request := settings.request
    offscreen := true
    size := match profile with
      | .full => size
      | .minimal => ⟨2 ^ Nat.clog 2 size.width, 2 ^ Nat.clog 2 size.height⟩
    resolves := if 1 < settings.samples then count else 0
    presents := count
    skippedDraws := 0
    bufferAllocations := if 1 < settings.samples then 5 else 3
    programLinks := 1 }

variable {profile : Profile} {settings : Settings} {size : Size} {count : Nat}

theorem ofSurface_of_unused {request : DrawableRequest} {s : Surface} (h : s.Unused) :
    ofSurface request s = ⟨request, false, ⟨0, 0⟩, 0, 0, 0, 0, 0⟩ := by
  rw [ofSurface, Backing.isOffscreen, Backing.size, h.set, h.statistics, h.allocations, h.links]
  rfl

theorem ofSurface_of_equipped {request : DrawableRequest} {s : Surface} {layout : Layout}
    (h : s.Equipped layout (count + 1)) :
    ofSurface request s = ⟨request, true, layout.size,
      if layout.isMultisample then count + 1 else 0, count + 1, 0, layout.partCount, 1⟩ := by
  obtain ⟨set, hset, -, hlayout, -⟩ := h.set
  rw [ofSurface, Backing.isOffscreen, Backing.size, hset, h.statistics, h.allocations, h.links,
    h.built (Nat.succ_pos count), Option.map_some, hlayout]
  rfl

/-- A run is one of frames on an opened surface. -/
theorem run_eq_frames (hv : settings.validate = .ok ()) :
    run profile settings size count =
      match (Surface.opened profile settings size).frames count with
      | (.error failure, _) => .error failure
      | (.ok (), surface) => .ok (ofSurface settings.request surface) := by
  rw [run, Surface.create, hv]
  rfl

theorem run_eq_unused (hv : settings.validate = .ok ())
    (h : count = 0 ∨ (Surface.opened profile settings size).needsSet = false) :
    run profile settings size count =
      .ok ⟨settings.request, false, ⟨0, 0⟩, 0, 0, 0, 0, 0⟩ := by
  obtain ⟨s, hframes, hunused⟩ : ∃ s,
      (Surface.opened profile settings size).frames count = (.ok (), s) ∧ s.Unused := by
    rcases h with rfl | hn
    · exact ⟨_, rfl, Surface.unused_opened⟩
    · exact Surface.unused_opened.frames hn count
  rw [run_eq_frames hv, hframes]
  exact congrArg Except.ok (ofSurface_of_unused hunused)

theorem run_eq_equipped {layout : Layout} (hv : settings.validate = .ok ())
    (hn : (Surface.opened profile settings size).needsSet = true)
    (hl : (Surface.opened profile settings size).order.layout profile.capabilities = .ok layout) :
    run profile settings size (count + 1) = .ok ⟨settings.request, true, layout.size,
      if layout.isMultisample then count + 1 else 0, count + 1, 0, layout.partCount, 1⟩ := by
  obtain ⟨s, hframes, hequipped⟩ := Surface.frames_opened hn hl count
  rw [run_eq_frames hv, hframes]
  exact congrArg Except.ok (ofSurface_of_equipped hequipped)

theorem run_eq_error {failure : Failure} (hv : settings.validate = .ok ())
    (hn : (Surface.opened profile settings size).needsSet = true)
    (hl : (Surface.opened profile settings size).order.layout profile.capabilities =
      .error failure) :
    run profile settings size (count + 1) = .error failure := by
  obtain ⟨s, hframe⟩ := Surface.frame_opened_error hn hl
  rw [run_eq_frames hv, Surface.frames, hframe]

theorem run_full (hv : settings.validate = .ok ())
    (hn : (Surface.opened .full settings size).needsSet = true)
    (hsize : size.isEmpty = false) :
    run .full settings size (count + 1) = .ok ⟨settings.request, true, size,
      if 1 < settings.samples then count + 1 else 0, count + 1, 0,
      if 1 < settings.samples then 5 else 3, 1⟩ := by
  obtain ⟨layout, hl, hshown, hmultisample⟩ :=
    Order.layout_full (o := (Surface.opened .full settings size).order) hsize
  have hsamples : layout.isMultisample = decide (1 < settings.samples) := hmultisample
  rw [run_eq_equipped hv hn hl, hshown, Layout.partCount, hsamples]
  simp only [decide_eq_true_eq]
  rfl

theorem run_minimal (hv : settings.validate = .ok ())
    (hn : (Surface.opened .minimal settings size).needsSet = true) :
    run .minimal settings size (count + 1) =
      if 1 < settings.samples then .error .multisampleUnsupported
      else if 2 ^ 31 < size.width ∨ 2 ^ 31 < size.height then
        .error (.config
          (toString size.width ++ "x" ++ toString size.height
            ++ " has no power-of-two texture size"))
      else .ok ⟨settings.request, true,
        ⟨2 ^ Nat.clog 2 size.width, 2 ^ Nat.clog 2 size.height⟩, 0, count + 1, 0, 3, 1⟩ := by
  by_cases hs : 1 < settings.samples
  · rw [if_pos hs]
    exact run_eq_error hv hn (Order.layout_minimal_of_multisample hs)
  · have hone : settings.samples = 1 := by
      have hpos : 0 < settings.samples := effectiveSamples_pos _
      omega
    have hl := Order.layout_minimal (o := (Surface.opened .minimal settings size).order) hone
    rw [if_neg hs]
    by_cases hlarge : 2 ^ 31 < size.width ∨ 2 ^ 31 < size.height
    · rw [if_pos hlarge]
      exact run_eq_error hv hn (hl.trans (if_pos hlarge))
    · rw [if_neg hlarge]
      exact run_eq_equipped hv hn (hl.trans (if_neg hlarge))

/-- However many frames are run, the report has a closed form. -/
theorem run_eq_closedForm (hv : settings.validate = .ok ()) (name : ProfileName) :
    run name.profile settings size count = closedForm name settings size count := by
  unfold closedForm
  split
  · rename_i hidle
    refine run_eq_unused hv (hidle.imp_right fun hidle => ?_)
    rw [Surface.needsSet_opened]
    rcases hidle with hneed | hw | hh
    · rw [hneed]
      rfl
    · simp [Size.isEmpty, hw]
    · simp [Size.isEmpty, hh]
  · rename_i hbusy
    simp only [not_or] at hbusy
    obtain ⟨hcount, hneed, hw, hh⟩ := hbusy
    obtain ⟨m, rfl⟩ := Nat.exists_eq_succ_of_ne_zero hcount
    have hsize : size.isEmpty = false := by simp [Size.isEmpty, hw, hh]
    have hn : (Surface.opened name.profile settings size).needsSet = true := by
      rw [Surface.needsSet_opened, eq_true_of_ne_false hneed, hsize]
      rfl
    cases name with
    | full =>
      rw [if_neg (by simp), if_neg (by simp)]
      exact run_full hv hn hsize
    | minimal =>
      refine (run_minimal hv hn).trans ?_
      simp only [true_and]
      split
      · rfl
      · rfl

end FramesReport

namespace FramesArguments

variable {a : FramesArguments} {fileText : String → Except String String} {settings : Settings}

/-- The standard settings are accepted, and others are checked when they are read. -/
theorem validate_of_settings (h : a.settings fileText = .ok settings) :
    settings.validate = .ok () := by
  unfold FramesArguments.settings at h
  split at h
  · cases h
    decide
  · split at h
    · cases h
    · split at h
      · cases h
      · rename_i hread
        cases h
        exact Settings.validate_of_ofText? hread

/-- For settings that are accepted the command reports the closed form. -/
theorem reports_closedForm (h : a.settings fileText = .ok settings) :
    let foreseen := FramesReport.closedForm a.profile settings ⟨a.width, a.height⟩ a.frames
    FramesReport.run a.profile.profile settings ⟨a.width, a.height⟩ a.frames = foreseen ∧
      a.run fileText =
        match foreseen with
        | .error failure => .ofMessage failure.message
        | .ok report => .ofJson report.toJson := by
  intro foreseen
  have hreport : FramesReport.run a.profile.profile settings ⟨a.width, a.height⟩ a.frames =
      foreseen := FramesReport.run_eq_closedForm (validate_of_settings h) a.profile
  refine ⟨hreport, ?_⟩
  rw [← hreport]
  cases hr : FramesReport.run a.profile.profile settings ⟨a.width, a.height⟩ a.frames with
  | error failure => simp only [FramesArguments.run, h, hr]
  | ok report => simp only [FramesArguments.run, h, hr]

/-- Three frames with one sample on a driver without extensions. -/
theorem reports_three_frames :
    let text := "\x7b\"offscreen\": \"always\", \"antialias\": 1\x7d"
    let a : FramesArguments := ⟨some "settings", 5, 3, 3, .minimal⟩
    let report : FramesReport :=
      ⟨⟨false, 1, 24, 8, 8, true⟩, true, ⟨8, 4⟩, 0, 3, 0, 3, 1⟩
    a.settings (fun _ => .ok text) =
        .ok { Settings.standard with offscreen := .always, antialias := 1 } ∧
      FramesReport.run .minimal { Settings.standard with offscreen := .always, antialias := 1 }
        ⟨5, 3⟩ 3 = .ok report ∧
      a.run (fun _ => .ok text) = .ofJson report.toJson := by
  intro text a report
  have hs : a.settings (fun _ => .ok text) =
      .ok { Settings.standard with offscreen := .always, antialias := 1 } := by
    decide
  obtain ⟨hreport, hrun⟩ := reports_closedForm hs
  have hforeseen : FramesReport.closedForm .minimal
      { Settings.standard with offscreen := .always, antialias := 1 } ⟨5, 3⟩ 3 = .ok report := by
    decide
  refine ⟨hs, hreport.trans hforeseen, hrun.trans ?_⟩
  rw [hforeseen]

end FramesArguments

end Compositor
