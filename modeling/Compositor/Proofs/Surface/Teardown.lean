import Compositor.Proofs.Surface.Ledger

/-!
# Teardown as an event

A teardown that waits as an event gives up what the surface holds once it is applied, as a direct
one does. It is applied in an update, though, and the same update goes on to make the set that the
surface needs. So a surface that draws offscreen in a live context has a new set right after it was
torn down by its last event; none of the objects from before the update are left.

The application may delete objects here, those of the surface too, but it makes none. What carries
the proofs is therefore half of the balance: every live object is held.
-/

namespace Compositor

open Relation

namespace Surface

/-- The application makes no objects itself. -/
def MakesNothing (_ : Surface) : Incident → Prop
  | .call call => call.creates? = none
  | .attempt _ => False
  | _ => True

/-- Every live object is held by the surface. -/
def Covers (s : Surface) : Prop := ∀ x, s.driver.objects.Live x → x ∈ s.holdings

/-- There is no set, and the driver has no objects. -/
def IsBare (s : Surface) : Prop :=
  s.canvas.backing.set? = none ∧ s.driver.objects.handles = []

variable {s s' : Surface}

namespace Covers

theorem book (h : s.Covers) (hb : s.Books s') : s'.Covers := by
  intro x hx
  cases hb with
  | gains hg hp =>
    rw [hp.mem_iff, List.mem_append]
    exact ((hg.live x).mp hx).symm.imp_right (h x)
  | loses hd hc hp =>
    have hdrops := s.canvas.device.drops_performAll hc
    rw [← hd] at hdrops
    obtain ⟨hlive, hgone⟩ := (hdrops.live x).mp hx
    exact (List.mem_append.mp (hp.mem_iff.mp (h x hlive))).resolve_left hgone

theorem moves (h : s.Covers) (ht : s.Tracks) (hm : ReflTransGen Moves s s') : s'.Covers := by
  induction hm with
  | refl => exact h
  | tail hsteps hstep ih => exact ih.book (hstep.books (ht.moves hsteps))

theorem undergo (h : s.Covers) {i : Incident} (ha : s.MakesNothing i) : (s.undergo i).Covers := by
  have keep (hc : (s.undergo i).driver.context = s.driver.context)
      (hl : ∀ x, (s.undergo i).driver.objects.Live x → s.driver.objects.Live x) :
      (s.undergo i).Covers := by
    intro x hx
    have hheld : (s.undergo i).heldSet = s.heldSet := heldSet_congr rfl hc
    rw [holdings, hheld, hc]
    exact h x (hl x hx)
  cases i with
  | call call =>
    exact keep (s.driver.context_perform call) fun x hx => Driver.live_of_perform ha hx
  | attempt what => cases ha
  | compile id source =>
    exact keep (s.canvas.device.sameHost_compile id source).context
      fun x hx => (s.canvas.device.live_compile id source x).mp hx
  | setFaults faults => exact keep rfl fun _ hx => hx
  | pretend pretence => exact keep rfl fun _ hx => hx
  | freshContext => exact keep rfl fun _ hx => hx
  | loseContext =>
    rintro ⟨kind, name⟩ hx
    cases kind <;> exact absurd rfl hx

end Covers

theorem Run.covers (h : Run MakesNothing s) : s.Covers := by
  induction h with
  | start profile settings policy =>
    rintro ⟨kind, name⟩ hx
    cases kind <;> exact absurd rfl hx
  | operate hrun hm ih => exact ih.moves hrun.tracks (moves_operate hrun.tracks hm)
  | undergo _ ha ih => exact ih.undergo ha

/-! ## Bare surfaces -/

/-- Where every live object is held and nothing is held, there is nothing. -/
theorem Covers.isBare (h : s.Covers) (hb : s.canvas.backing.set? = none)
    (hh : s.holdings = []) : s.IsBare := by
  refine ⟨hb, List.eq_nil_iff_forall_not_mem.mpr fun x hx => ?_⟩
  have hheld := h x ((Objects.mem_handles_iff _ _).mp hx)
  rw [hh] at hheld
  cases hheld

theorem IsBare.not_live (h : s.IsBare) (x : Handle) : ¬ s.canvas.device.Live x := by
  intro hx
  have hlisted : x ∈ s.driver.objects.handles := (Objects.mem_handles_iff _ _).mpr hx
  rw [h.2] at hlisted
  cases hlisted

/-- Whatever makes no objects leaves a bare surface bare. -/
theorem IsBare.grow (h : s.IsBare) (hb : s'.canvas.backing.set? = none)
    (hg : s.canvas.device.Grows s'.canvas.device []) : s'.IsBare := by
  refine ⟨hb, List.eq_nil_iff_forall_not_mem.mpr fun x hx => ?_⟩
  rcases (hg.live x).mp ((Objects.mem_handles_iff _ _).mp hx) with hold | hnew
  · exact h.not_live x hold
  · cases hnew

/-- Once everything was given up there is nothing. -/
theorem isBare_release (h : s.Covers) (ht : s.Tracks) (hi : s.InStep) : s.release.IsBare :=
  (h.moves ht (moves_release hi)).isBare (Backing.set?_destroy _ _) (holdings_release s)

/-- A teardown that is the last event leaves nothing when the events are applied. -/
theorem isBare_drain (h : s.Covers) (ht : s.Tracks) (hm : s.MayApplyAll s.pending)
    {events : List Event} (hp : s.pending = events ++ [.teardown]) : s.drain.IsBare := by
  have hdrain : s.drain = { (events.foldl apply s).release with pending := [] } := by
    rw [drain, hp, List.foldl_append]
    rfl
  refine (h.moves ht (moves_drain ht hm)).isBare ?_ ?_
  all_goals rw [hdrain]
  · exact Backing.set?_destroy _ _
  · exact holdings_release _

/-- Telling the driver the swap interval makes nothing. -/
theorem IsBare.settle (h : s.IsBare) (hr : s.driver.objects.Regular) : s.settle.IsBare := by
  have hi := s.idles_applySwapInterval hr
  rcases s.settle_cases with hs | hs
  all_goals rw [hs]
  · exact h
  · exact h.grow h.1 hi.grows

/-- On a bare surface a set is ensured by making all of it. -/
theorem IsBare.ensure (h : s.IsBare) (hr : s.driver.objects.Regular)
    {outcome : Except Failure Unit}
    (he : s.onCanvas (s.canvas.ensure s.order s.capabilities) = (outcome, s')) :
    match outcome with
    | .error _ => s'.IsBare
    | .ok _ => ∃ set, s'.canvas.backing.set? = some set ∧
        s'.driver.objects.handles.Perm set.handles ∧
          ∀ x ∈ set.handles, s.driver.objects.issued < x.name := by
  obtain ⟨b', e, hb, rfl⟩ := onCanvas_ensure he
  have hdiscard : (s.canvas.backing.discard s.context s.canvas.device).2 = s.canvas.device := by
    rw [Backing.device_discard, h.1]
  cases outcome with
  | error failure =>
    obtain ⟨hnone, hrest, -⟩ := Backing.restored_of_ensure hr hb
    exact h.grow hnone (hdiscard ▸ hrest.adds.grows)
  | ok =>
    have hserves : s.canvas.backing.serves s.order = false := by
      rw [Backing.serves, h.1]
      rfl
    obtain ⟨layout, set, -, rfl, hmade⟩ := Backing.made_of_ensure hr hserves hb
    have hgrows : s.canvas.device.Grows e set.handles := hdiscard ▸ hmade.grows
    refine ⟨set, rfl, (hgrows.regular hr).handles_perm hgrows.nodup fun x => ?_, hgrows.fresh⟩
    exact (hgrows.live x).trans (or_iff_right (h.not_live x))

/-- An update whose last event is a teardown. After the events nothing is left, as after a direct
teardown. It stays so unless a set is needed and made: then the objects are those of the set, all
made in this update. -/
theorem torn_down_of_update (h : Run MakesNothing s) (hm : s.May .update) {events : List Event}
    (hp : s.pending = events ++ [.teardown]) {outcome : Except Failure Unit}
    (hu : s.update = (outcome, s')) :
    s.drain.IsBare ∧
      (s.InStep → ∀ host, (s.operate (.tearDown host)).IsBare) ∧
      (outcome ≠ .ok () ∨ s'.needsSet = false → s'.IsBare) ∧
      (outcome = .ok () → s'.needsSet = true →
        ∃ set, s'.canvas.backing.set? = some set ∧
          s'.driver.objects.handles.Perm set.handles ∧
            ∀ x ∈ set.handles, s.driver.objects.issued < x.name) := by
  have ht := h.tracks
  have hdrained := isBare_drain h.covers ht hm.1 hp
  refine ⟨hdrained, fun hi host => isBare_release h.covers ht hi, ?_⟩
  have hmoves := moves_drain ht hm.1
  have hdrain := ht.moves hmoves
  have hbare := hdrained.settle hdrain.regular
  have hmoves' := hmoves.trans (moves_settle hdrain)
  rcases s.update_cases with ⟨hn, hs⟩ | ⟨hn, hs⟩
  · cases hu.symm.trans hs
    refine ⟨fun _ => hbare, fun _ hneeded => ?_⟩
    rw [hn] at hneeded
    cases hneeded
  · have he := hs.symm.trans hu
    have hn' : s'.needsSet = true := (congrArg (fun r => r.2.needsSet) he).symm.trans hn
    have hensured := hbare.ensure (ht.moves hmoves').regular he
    cases outcome with
    | error failure => exact ⟨fun _ => hensured, fun hok => by cases hok⟩
    | ok =>
      refine ⟨fun hor => ?_, fun _ _ => ?_⟩
      · rcases hor with hne | hn''
        · exact absurd rfl hne
        · rw [hn'] at hn''
          cases hn''
      · obtain ⟨set, hset, hperm, hfresh⟩ := hensured
        exact ⟨set, hset, hperm, fun x hx =>
          Nat.lt_of_le_of_lt (edits_of_moves hmoves').issued_le (hfresh x hx)⟩

/-- A surface that is torn down by an event has a new set after the update. -/
theorem torn_down_of_first_update :
    let s := (((withPolicy .full .standard .always).operate (.adoptContext (.live 1))).operate
      (.resize ⟨4, 4⟩)).operate (.send .teardown)
    s.drain.IsBare ∧ s.update.1 = .ok () ∧
      ∃ set, s.update.2.canvas.backing.set? = some set ∧
        s.update.2.driver.objects.handles.Perm set.handles := by
  intro s
  have hresized := Run.reported MakesNothing .full .standard .always ⟨4, 4⟩
  have hsent : Run MakesNothing s := @Run.operate _ _ (.send .teardown) hresized trivial
  have hok : s.update.1 = .ok () := by decide +kernel
  have hlast : s.pending = [] ++ [.teardown] := rfl
  obtain ⟨hbare, -, -, hset⟩ := torn_down_of_update hsent
    ⟨⟨Or.inr rfl, trivial⟩, Or.inr rfl⟩ hlast (Prod.ext hok rfl)
  obtain ⟨set, hsome, hperm, -⟩ := hset rfl rfl
  exact ⟨hbare, hok, set, hsome, hperm⟩

end Surface

end Compositor
