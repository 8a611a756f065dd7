import Compositor.Proofs.Program.Obliging
import Compositor.Proofs.Program.Service

/-!
# Programs that are ready

What a cache gives can be used: the program is there and linked, for what it was asked for, until
the cache is released or the context is lost. For this nobody else may link or delete the programs
of the cache; they may do anything else.
-/

namespace Compositor

namespace Workshop

/-- Nobody else links or deletes a program that the cache holds in the current context. -/
def Spares (e : Workshop × Step) : Prop :=
  ∀ purpose b, e.1.Holds purpose b →
    e.2 ≠ .undergo (.call (.link b.program)) ∧ e.2 ≠ .undergo (.call (.deleteProgram b.program))

/-- Every program that the cache holds in the current context can be used. -/
def Ready (s : Workshop) : Prop :=
  ∀ purpose b, s.Holds purpose b → b.IsUsable purpose s.device.driver

variable {s t : Workshop} {purpose : Purpose} {b : BuiltProgram}

theorem Asked.ready {entry : CachedProgram} (h : s.Asked purpose entry t)
    (hr : s.device.driver.objects.Regular) (hready : s.Ready) : t.Ready := by
  obtain ⟨new, hg, hstored, -⟩ := h.grows
  have hcontext : t.context = s.context := hg.host.context
  -- programs of before are as they were
  have hold (q : Purpose) (b : BuiltProgram) (hq : s.Holds q b) :
      b.IsUsable q t.device.driver := by
    have husable := hready q b hq
    refine husable.keep (Driver.keepsLinkage_of_outline (Objects.outline?_congr ?_))
    exact hstored hr _ husable.live
  intro q b' hq
  rw [Holds, hcontext] at hq
  rcases h.cached?_cases hq with hq | ⟨rfl, he, -⟩
  · exact hold q b' hq
  · cases h with
    | found hu =>
      subst he
      exact hold q b' (Option.filter_eq_some_iff.mp hu).1
    | built hu hb hperm husable =>
      cases he
      exact husable
    | failed => cases he

theorem Sound.ready_step (h : s.Sound) {a : Step} (hs : Spares (s, a)) (hready : s.Ready) :
    (s.step a).Ready := by
  cases a with
  | ask purpose => exact (asked h.regular purpose).ready h.regular hready
  | release => exact nofun
  | undergo i =>
    intro q b hq
    cases hloss : i.isLoss with
    | false =>
      obtain ⟨-, hcontext, -⟩ := s.device.undergo_of_not_isLoss hloss
      have hold : s.Holds q b := by
        rw [Holds, context, ← hcontext]
        exact hq
      obtain ⟨hl, hd⟩ := hs q b hold
      exact (hready q b hold).keep
        (Device.keepsLinkage_undergo h.regular hloss (fun he => hl (by rw [he]))
          (fun he => hd (by rw [he])))
    | true =>
      -- no entry is of the new context
      obtain rfl := Incident.eq_loseContext hloss
      exact absurd rfl (Device.ne_loseContext (h.owners q _ hq).2)

theorem ready_run (profile : Profile) {steps : List Step}
    (hs : ∀ e ∈ trail step (start profile) steps, Spares e) : (run profile steps).Ready := by
  have hkeep := foldl_of_trail (P := fun s => s.Sound ∧ s.Ready) (Q := Spares)
    (fun s a hs h => ⟨h.1.step a, h.1.ready_step hs h.2⟩) ⟨sound_start profile, nofun⟩ hs
  exact hkeep.2

/-! ## Programs of different purposes -/

theorem Reserves.step (hb : s.Reserves purpose b) (h : s.Sound) (a : Step) :
    (s.step a).Reserves purpose b := by
  cases a with
  | ask other => exact (asked h.regular other).keepsReserved hb
  | release =>
    exact ⟨fun x hx => Nat.le_trans (hb.named x hx) h.drops_release.edits.issued_le, nofun⟩
  | undergo i =>
    exact ⟨fun x hx => Nat.le_trans (hb.named x hx) (s.device.issued_le_undergo i), hb.only⟩

theorem Reserves.foldl (hb : s.Reserves purpose b) (h : s.Sound) (steps : List Step) :
    (steps.foldl Workshop.step s).Reserves purpose b := by
  induction steps generalizing s with
  | nil => exact hb
  | cons a steps ih => exact ih (hb.step h a) (h.step a)

/-- A program that is given can be used from then on until the cache is released or the context is
lost, and as long it is given again. The programs of different purposes are different ones, however
far apart they are asked for. -/
theorem usable_of_run (profile : Profile) {steps : List Step}
    (hs : ∀ e ∈ trail step (start profile) steps, Spares e) :
    let s := run profile steps
    ∀ before after purpose b, steps = before ++ .ask purpose :: after →
      ((run profile before).ask purpose).1.built? = some b →
      ((∀ a ∈ after, a.ends = false) →
        b.IsUsable purpose s.device.driver ∧ (s.ask purpose).1.built? = some b) ∧
      ∀ other b', other ≠ purpose → (s.ask other).1.built? = some b' →
        b'.program ≠ b.program := by
  intro s before after purpose b hsteps hb
  have h : s.Sound := sound_run profile steps
  have hbefore := sound_run profile before
  have hgiven : ((run profile before).ask purpose).2.Holds purpose b := hbefore.holds_ask hb
  have hrun : s = after.foldl step ((run profile before).ask purpose).2 := by
    show run profile steps = _
    rw [hsteps, run_append, List.foldl_cons]
    rfl
  refine ⟨fun hafter => ?_, fun other b' hne hb' he => ?_⟩
  · have hheld : s.Holds purpose b := by
      rw [hrun]
      exact (hbefore.ask purpose).holds_foldl hafter hgiven
    refine ⟨ready_run profile hs purpose b hheld, ?_⟩
    rw [ask_of_usable? (h.usable?_eq_some_iff.mpr ⟨hheld, rfl⟩)]
    rfl
  · have hreserved : s.Reserves purpose b := by
      rw [hrun]
      exact ((hbefore.ask purpose).reserves _ _ _ hgiven).foldl (hbefore.ask purpose) after
    exact hne ((hreserved.step h (.ask other)).only other _ b' (h.holds_ask hb') he)

/-- An obliging device gives a program that there is no entry for. -/
theorem Sound.built_of_isObliging (h : s.Sound) (hd : s.device.IsObliging)
    (hu : s.programs.usable? purpose s.context = none) :
    ∃ b, (s.ask purpose).1.built? = some b := by
  obtain ⟨b, e, hbuild, -⟩ := hd.buildProgram h.regular purpose
  refine ⟨b, ?_⟩
  unfold Workshop.ask ProgramCache.entry
  rw [hu, hbuild]
  rfl

/-- On a new device the program for one colour can be used after it was asked for, whatever was
deleted before, and it is given again. -/
theorem usable_solid :
    ∃ b : BuiltProgram,
      let s := run .full [.undergo (.call (.deleteProgram ⟨1⟩)), .ask .solid]
      b.IsUsable .solid s.device.driver ∧ (s.ask .solid).1.built? = some b := by
  have hspares : ∀ e ∈ trail step (start .full)
      [.undergo (.call (.deleteProgram ⟨1⟩)), .ask .solid], Spares e := by
    intro e he purpose b hb
    simp only [trail, List.mem_cons, List.mem_nil_iff, or_false] at he
    rcases he with rfl | rfl
    · cases hb
    · refine ⟨?_, ?_⟩ <;> intro h <;> cases h
  have hsound := sound_run .full [.undergo (.call (.deleteProgram ⟨1⟩))]
  obtain ⟨b, hb⟩ : ∃ b,
      ((run .full [.undergo (.call (.deleteProgram ⟨1⟩))]).ask .solid).1.built? = some b :=
    hsound.built_of_isObliging ⟨fun _ => rfl, fun _ => rfl, rfl, rfl⟩ rfl
  have husable := usable_of_run .full hspares [.undergo (.call (.deleteProgram ⟨1⟩))] [] .solid b
    rfl hb
  exact ⟨b, husable.1 (List.forall_mem_nil _)⟩

end Workshop

end Compositor
