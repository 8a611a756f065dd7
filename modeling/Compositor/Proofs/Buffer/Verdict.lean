import Compositor.Proofs.Buffer.Forecast
import Compositor.Proofs.Canvas.Representation

/-!
# When a set cannot be had

Ensuring a set fails where it should and nowhere else. Where no creation is refused, the outcome
follows from the order, the capabilities and the status that the driver is told to pretend: a set
that was made for the surface is kept, an order without a layout is turned down before anything is
made, and a set that is made is found incomplete only under a pretence. The capabilities need not be
those of the driver.
-/

namespace Compositor

/-! ## Orders without a layout -/

namespace Order

/-- Why there is no layout for an order, if there is none. -/
def obstacle? (o : Order) (caps : Capabilities) : Option Failure :=
  if 1 < o.samples ∧ ¬ (caps.extendedProfile = true ∧ caps.multisample = true) then
    some .multisampleUnsupported
  else if caps.nonPowerOfTwo = false ∧ (2 ^ 31 < o.size.width ∨ 2 ^ 31 < o.size.height) then
    some (.config
      (toString o.size.width ++ "x" ++ toString o.size.height
        ++ " has no power-of-two texture size"))
  else none

variable {o : Order} {caps : Capabilities}

theorem isServedBy_iff {old : Order} :
    o.isServedBy old = true ↔ old.size = o.size ∧ old.samples = o.samples := by
  simp [isServedBy]

theorem lacksSamples_iff :
    (1 < o.samples && !caps.canMultisample) = true ↔
      1 < o.samples ∧ ¬ (caps.extendedProfile = true ∧ caps.multisample = true) := by
  rw [Bool.and_eq_true, decide_eq_true_eq, Bool.not_eq_true', ← Bool.not_eq_true,
    Capabilities.canMultisample, Bool.and_eq_true]

theorem imageSize?_eq_none_iff :
    caps.imageSize? o.size = none ↔
      caps.nonPowerOfTwo = false ∧ (2 ^ 31 < o.size.width ∨ 2 ^ 31 < o.size.height) := by
  cases hn : caps.nonPowerOfTwo with
  | true => simp [Capabilities.imageSize?, hn]
  | false =>
    rw [Capabilities.imageSize?_of_powersOfTwo hn]
    by_cases hsize : 2 ^ 31 < o.size.width ∨ 2 ^ 31 < o.size.height
    · rw [if_pos hsize]
      exact ⟨fun _ => ⟨rfl, hsize⟩, fun _ => rfl⟩
    · rw [if_neg hsize]
      exact ⟨fun h => absurd h (Option.some_ne_none _), fun h => absurd h.2 hsize⟩

/-- An order has a layout unless there is an obstacle, and then it fails with that. -/
theorem layout_of_obstacle (o : Order) (caps : Capabilities) :
    match o.obstacle? caps with
    | some failure => o.layout caps = .error failure
    | none => ∃ layout, o.layout caps = .ok layout := by
  unfold obstacle? layout
  by_cases hs : 1 < o.samples ∧ ¬ (caps.extendedProfile = true ∧ caps.multisample = true)
  · rw [if_pos hs, if_pos (lacksSamples_iff.mpr hs)]
  rw [if_neg hs, if_neg (mt lacksSamples_iff.mp hs)]
  by_cases hsize : caps.nonPowerOfTwo = false ∧
      (2 ^ 31 < o.size.width ∨ 2 ^ 31 < o.size.height)
  · rw [if_pos hsize, imageSize?_eq_none_iff.mpr hsize]
  · obtain ⟨image, himage⟩ := Option.ne_none_iff_exists'.mp (mt imageSize?_eq_none_iff.mp hsize)
    rw [if_neg hsize, himage]
    exact ⟨_, rfl⟩

end Order

/-! ## What checks come to -/

/-- What a driver answers when it is asked for the status of a framebuffer that is complete. -/
def Pretence.answer (p : Pretence) : Except Failure Unit :=
  match p.status with
  | none => .ok ()
  | some status =>
    if status = .complete then .ok () else .error (.framebufferIncomplete status)

namespace Prospects

variable {p : Prospects}

/-- No creation that is yet to come is refused. -/
def Grants (p : Prospects) : Prop := ∀ n, p.creations ≤ n → p.faults.refuses n = false

theorem Grants.granted (h : p.Grants) : p.granted.Grants :=
  fun n hn => h n (Nat.le_of_succ_le hn)

theorem outcome_check (p : Prospects) (rest : List Hurdle) :
    p.outcome (.check :: rest) = p.pretence.answer.bind fun _ => p.outcome rest := by
  rw [outcome, Pretence.answer]
  cases p.pretence.status with
  | none => rfl
  | some status =>
    by_cases hs : status = .complete
    · simp [Status.isComplete, hs, Except.bind]
    · simp [Status.isComplete, hs, Except.bind]

theorem outcome_creation (h : p.Grants) (what : Creation) (rest : List Hurdle) :
    p.outcome (.creation what :: rest) = p.granted.outcome rest := by
  rw [outcome, h _ (Nat.le_refl _), if_neg Bool.false_ne_true]

/-- Where creations are granted and checks pass, nothing is in the way. -/
theorem outcome_of_passes (h : p.Grants) (ha : p.pretence.answer = .ok ()) (l : List Hurdle) :
    p.outcome l = .ok () := by
  induction l generalizing p with
  | nil => rfl
  | cons hurdle rest ih =>
    cases hurdle with
    | creation what =>
      rw [outcome_creation h]
      exact ih h.granted ha
    | check =>
      rw [outcome_check, ha]
      exact ih h ha

/-- Where creations are granted, a row with a check comes to the answer of the driver. -/
theorem outcome_of_grants (h : p.Grants) {l : List Hurdle} (hl : .check ∈ l) :
    p.outcome l = p.pretence.answer := by
  induction l generalizing p with
  | nil => cases hl
  | cons hurdle rest ih =>
    cases hurdle with
    | creation what =>
      have hrest : .check ∈ rest := by simpa using hl
      rw [outcome_creation h]
      exact ih h.granted hrest
    | check =>
      rw [outcome_check]
      cases ha : p.pretence.answer with
      | error failure => rfl
      | ok => exact outcome_of_passes h ha rest

end Prospects

theorem Layout.check_mem_hurdles (l : Layout) : .check ∈ l.hurdles := by
  simp [hurdles]

/-! ## The verdict -/

namespace Backing

variable {b b' : Backing} {d e : Device} {order : Order} {caps : Capabilities}

/-- There is a set that was made for the surface: for its size, for as many samples as its quality
comes to, and in a context that goes with its own. -/
def IsMadeFor (b : Backing) (size : Size) (quality : Nat) (owner : Context) : Prop :=
  ∃ set, b.set? = some set ∧ set.order.owner.compatible owner = true ∧
    set.order.size = size ∧ set.order.samples = effectiveSamples quality

theorem serves_iff_isMadeFor (b : Backing) (size : Size) (quality : Nat) (owner : Context) :
    b.serves (.ofQuality size quality owner) = true ↔ b.IsMadeFor size quality owner := by
  unfold serves IsMadeFor
  simp only [Option.any_eq_true, Bool.and_eq_true, Order.isServedBy_iff]
  rfl

theorem not_serves_iff (b : Backing) (size : Size) (quality : Nat) (owner : Context) :
    b.serves (.ofQuality size quality owner) = false ↔ ¬ b.IsMadeFor size quality owner := by
  rw [← serves_iff_isMadeFor, Bool.not_eq_true]

/-- What ensuring a set comes to if the set that is there does not serve and every creation is
granted: the first thing that is in the way, and success without one. -/
def verdict (order : Order) (caps : Capabilities) (pretence : Pretence) : Except Failure Unit :=
  match order.obstacle? caps with
  | some failure => .error failure
  | none => pretence.answer

/-- The first thing that is in the way decides. -/
theorem ensure_eq_verdict (hr : d.driver.objects.Regular) (hg : d.prospects.Grants)
    (hs : b.serves order = false) :
    (b.ensure order caps d).1 = verdict order caps d.driver.pretence := by
  have hforecast : (b.ensure order caps d).1 = (forecast b.set? d.prospects order caps).1 :=
    congrArg Prod.fst (b.ensure_forecast hr order caps)
  have hlayout := order.layout_of_obstacle caps
  rw [hforecast, forecast, ← serves, hs, if_neg Bool.false_ne_true, verdict]
  cases ho : order.obstacle? caps with
  | some failure =>
    rw [ho] at hlayout
    rw [hlayout]
  | none =>
    rw [ho] at hlayout
    obtain ⟨layout, hl⟩ := hlayout
    rw [hl]
    dsimp only
    rw [Prospects.outcome_of_grants hg layout.check_mem_hurdles]
    show _ = d.prospects.pretence.answer
    cases d.prospects.pretence.answer <;> rfl

/-- An order without a layout is turned down before anything is made. -/
theorem ensure_of_obstacle (hr : d.driver.objects.Regular) {result : Except Failure Unit}
    (h : b.ensure order caps d = (result, b', e))
    (ho : result = .error .multisampleUnsupported ∨ ∃ text, result = .error (.config text)) :
    e.creations = d.creations ∧ e.driver.objects.issued = d.driver.objects.issued := by
  obtain ⟨failure, rfl⟩ : ∃ failure, result = .error failure := by
    rcases ho with rfl | ⟨text, rfl⟩ <;> exact ⟨_, rfl⟩
  cases hs : b.serves order with
  | true =>
    rw [ensure_of_serves hs] at h
    cases h
  | false =>
    obtain ⟨-, -, hl | ⟨-, hexcuse⟩⟩ := restored_of_ensure hr h
    · rw [ensure_of_not_serves hs, hl] at h
      obtain rfl : (b.discard order.owner d).2 = e := congrArg (·.2.2) h
      exact ⟨congrArg Prospects.creations (prospects_discard b order.owner d),
        issued_discard b order.owner d⟩
    · cases hexcuse <;> simp at ho

/-- A set that is made on a driver that pretends nothing has framebuffers that are complete. -/
theorem complete_of_ensure (hr : d.driver.objects.Regular) (hp : d.driver.pretence.status = none)
    (hs : b.serves order = false) (h : b.ensure order caps d = (.ok (), b', e)) :
    ∃ set, b'.set? = some set ∧
      ∀ id, .framebuffer id ∈ set.parts → e.driver.statusOf id = .complete := by
  obtain ⟨layout, set, -, rfl, hmade⟩ := made_of_ensure hr hs h
  have hpretence : e.driver.pretence.status = none := by
    rw [hmade.pretence, (b.drops_discard order.owner d).2.pretence, hp]
  have hintact := hmade.unpainted.intact hmade.multisample hmade.packed
  exact ⟨set, rfl, fun id hid => hintact.statusOf_eq_complete hpretence hid⟩

/-- Ensuring a set fails exactly when it should. It succeeds on a set that was made for the surface,
whatever goes wrong with the device; otherwise, if no creation is refused, its outcome is the
verdict on the order. A driver that pretends nothing reports no set incomplete, whatever
capabilities the set was made with. What cannot be had for want of samples or of an image size is
turned down before anything is made. -/
theorem verdict_of_ensure (hd : d.Reachable) {size : Size} {quality : Nat} {owner : Context}
    {result : Except Failure Unit}
    (h : b.ensure (.ofQuality size quality owner) caps d = (result, b', e)) :
    (b.IsMadeFor size quality owner → result = .ok ()) ∧
      (¬ b.IsMadeFor size quality owner → d.prospects.Grants →
        result = verdict (.ofQuality size quality owner) caps d.driver.pretence) ∧
      (d.driver.pretence.status = none →
        (∀ status, result ≠ .error (.framebufferIncomplete status)) ∧
          (¬ b.IsMadeFor size quality owner → result = .ok () → ∃ set, b'.set? = some set ∧
            ∀ id, .framebuffer id ∈ set.parts → e.driver.statusOf id = .complete)) ∧
      (result = .error .multisampleUnsupported ∨ (∃ text, result = .error (.config text)) →
        e.creations = d.creations ∧ e.driver.objects.issued = d.driver.objects.issued) := by
  have hr := hd.regular
  refine ⟨?_, ?_, ?_, ensure_of_obstacle hr h⟩
  · intro hmade
    rw [ensure_of_serves ((serves_iff_isMadeFor ..).mpr hmade)] at h
    exact (congrArg Prod.fst h).symm
  · intro hmade hg
    rw [← ensure_eq_verdict hr hg ((not_serves_iff ..).mpr hmade), h]
  · intro hp
    constructor
    · rintro status rfl
      -- neither a layout nor the device is to blame
      obtain ⟨-, -, hl | ⟨-, hexcuse⟩⟩ := restored_of_ensure hr h
      · rcases layout_error hl with he | ⟨text, he⟩ <;> cases he
      · cases hexcuse with
        | pretended hs =>
          rw [hp] at hs
          cases hs
    · intro hmade hok
      rw [hok] at h
      exact complete_of_ensure hr hp ((not_serves_iff ..).mpr hmade) h

/-- A driver of one sample and no extensions, asked with capabilities that are not its own: a set
that is made, two orders without a layout, a status that is pretended, and the set again when
nothing can be made any more. -/
theorem verdict_of_foreign_capabilities :
    let d := Device.create .minimal
    let unsupported : Pretence := ⟨false, false, some .unsupported⟩
    let caps : Capabilities := ⟨true, true, true, false, 4⟩
    let wide : Order := .ofQuality ⟨2 ^ 31 + 1, 3⟩ 1 (.live 1)
    let smooth : Order := .ofQuality ⟨5, 3⟩ 4 (.live 1)
    (uninitialized.ensure wide caps d).1 =
        .error (.config "2147483649x3 has no power-of-two texture size") ∧
      (uninitialized.ensure smooth { caps with multisample := false } d).1 =
        .error .multisampleUnsupported ∧
      (uninitialized.ensure smooth caps
        (d.modifyDriver ({ · with pretence := unsupported }))).1 =
        .error (.framebufferIncomplete .unsupported) ∧
      ∃ b e, uninitialized.ensure smooth caps d = (.ok (), b, e) ∧
        (b.ensure (.ofQuality ⟨5, 3⟩ 5 .uninitialized) .none
          { e with faults := ⟨fun _ => true, fun _ => true⟩ }).1 = .ok () := by
  intro d unsupported caps wide smooth
  have hd : d.Reachable := .create .minimal
  have hverdict (d : Device) (hd : d.Reachable) (hg : d.prospects.Grants) (size : Size)
      (quality : Nat) (caps : Capabilities) :
      (uninitialized.ensure (.ofQuality size quality (.live 1)) caps d).1 =
        verdict (.ofQuality size quality (.live 1)) caps d.driver.pretence := by
    have hnone : ¬ uninitialized.IsMadeFor size quality (.live 1) := by
      rintro ⟨set, hset, -⟩
      cases hset
    rcases he : uninitialized.ensure (.ofQuality size quality (.live 1)) caps d
      with ⟨result, b, e⟩
    exact (verdict_of_ensure hd he).2.1 hnone hg
  refine ⟨?_, ?_, ?_, ?_⟩
  · rw [hverdict d hd fun _ _ => rfl]
    decide
  · rw [hverdict d hd fun _ _ => rfl]
    decide
  · rw [hverdict _ (.setPretence unsupported hd) fun _ _ => rfl]
    decide
  · have hfirst : (uninitialized.ensure smooth caps d).1 = verdict smooth caps d.driver.pretence :=
      hverdict d hd (fun _ _ => rfl) ⟨5, 3⟩ 4 caps
    have hok : verdict smooth caps d.driver.pretence = .ok () := by decide
    rw [hok] at hfirst
    rcases he : uninitialized.ensure smooth caps d with ⟨result, b, e⟩
    rw [he] at hfirst
    obtain rfl : result = .ok () := hfirst
    obtain ⟨layout, set, -, rfl, hmade⟩ := made_of_ensure hd.regular rfl he
    have hmadeFor : (ready set .fresh).IsMadeFor ⟨5, 3⟩ 5 .uninitialized :=
      ⟨set, rfl, by rw [hmade.order]; rfl, by rw [hmade.order]; rfl, by rw [hmade.order]; rfl⟩
    have hreachable : Device.Reachable { e with faults := ⟨fun _ => true, fun _ => true⟩ } :=
      .setFaults _ (reachable_ensure hd he)
    refine ⟨_, e, rfl, ?_⟩
    exact (verdict_of_ensure hreachable (Eq.refl (ensure _ _ .none _))).1 hmadeFor

end Backing

end Compositor
