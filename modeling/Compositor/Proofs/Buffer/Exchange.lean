import Compositor.Proofs.Buffer.Furnishing
import Compositor.Proofs.Buffer.Verdict
import Compositor.Proofs.Device.Balance
import Compositor.Proofs.Trail

/-!
# What ensuring a set costs

A set that serves costs nothing, and it serves exactly if it was made for the surface: what counts
are the size and the samples that were asked for and not those that it came to have. In place of any
other a new set is made, of five objects if it has several samples and of three if not. Of the old
set those objects are deleted that are still there, unless it belongs to another context, whose
objects are not touched.
-/

namespace Compositor

namespace Device

/-- Between `d` and `e` the objects under `old` were deleted, as far as they were there, and those
under `new` were made. -/
structure Exchanges (d e : Device) (old new : List Handle) : Prop where
  created : e.driver.statistics.created = d.driver.statistics.created + new.length
  deleted : e.driver.statistics.deleted =
    d.driver.statistics.deleted + (d.driver.objects.handles.filter (· ∈ old)).length
  /-- No name was handed out before. -/
  fresh : ∀ x ∈ new, d.driver.objects.issued < x.name
  names : (new.map Handle.name).Nodup
  live : ∀ x, e.Live x ↔ d.Live x ∧ x ∉ old ∨ x ∈ new
  others : ∀ x, x ∉ old → x ∉ new →
    e.driver.objects.stored? x = d.driver.objects.stored? x

/-- Deletions first, then creations. -/
theorem Exchanges.of_drops_of_grows {d d₁ e : Device} {old new : List Handle} (hd : d.Reachable)
    (he : e.Reachable) (hdrop : d.Drops d₁ old)
    (hclear : d.Confined (fun c => c.creates? = none) d₁) (hgrow : d₁.Grows e new)
    (hmake : d₁.Confined (fun c => c.deletes? = none) e)
    (hothers : ∀ x, x ∉ new → e.driver.objects.stored? x = d₁.driver.objects.stored? x) :
    d.Exchanges e old new := by
  have hr₁ := hdrop.edits.regular hd.regular
  obtain ⟨hcreated₁, hdeleted₁⟩ := hdrop.counts hd.regular hclear
  obtain ⟨hcreated, hdeleted⟩ := hgrow.counts hr₁ hmake
  have hlive (x : Handle) (hx : x ∈ new) : e.Live x := (hgrow.live x).mpr (Or.inr hx)
  refine ⟨?_, ?_, ?_, ?_, ?_, ?_⟩
  · rw [hcreated, hcreated₁]
  · rw [hdeleted, hdeleted₁]
  · intro x hx
    exact Nat.lt_of_le_of_lt hdrop.edits.issued_le (hgrow.fresh x hx)
  · exact hgrow.nodup.map_on fun x hx y hy => he.isNamed x y (hlive x hx) (hlive y hy)
  · intro x
    rw [hgrow.live, hdrop.live]
  · intro x hold hnew
    rw [hothers x hnew, hdrop.stored, if_neg hold]

end Device

namespace Backing

variable {b b' : Backing} {d e : Device}

/-- In place of a set that does not serve a new one is made. -/
theorem exchanges_of_ensure (hd : d.Reachable) {order : Order} {caps : Capabilities}
    (hs : b.serves order = false) (h : b.ensure order caps d = (.ok (), b', e)) :
    ∃ set, b'.set? = some set ∧ set.order = order ∧
      set.handles.length = (if 1 < set.layout.samples then 5 else 3) ∧
      d.Exchanges e (b.spent order.owner) set.handles := by
  have he := reachable_ensure hd h
  obtain ⟨layout, set, hl, rfl, hmade⟩ := made_of_ensure hd.regular hs h
  have hmake : BufferSet.make order layout (b.discard order.owner d).2 = (.ok set, e) := by
    rw [ensure_of_not_serves hs, hl] at h
    dsimp only at h
    split at h
    · cases h
    · rename_i hm
      cases h
      exact hm
  have hlength : set.handles.length = (if 1 < set.layout.samples then 5 else 3) := by
    rw [set.length_handles, hmade.multisample, Layout.isMultisample]
    simp only [decide_eq_true_eq]
  refine ⟨set, rfl, hmade.order, hlength, .of_drops_of_grows hd he (b.drops_discard order.owner d).1
    ((b.confined_discard order.owner d).mono fun c hc => ?_) hmade.grows
    ((BufferSet.furnishes_make hmake).mono fun c => Call.deletes?_of_furnishes) hmade.others⟩
  cases c <;> first | rfl | cases hc

/-- What a set is asked for, and by which capabilities it may be made. -/
structure Demand where
  size : Size
  quality : Nat
  owner : Context
  capabilities : Capabilities

namespace Demand

def order (q : Demand) : Order := .ofQuality q.size q.quality q.owner

/-- What the demand comes to. -/
def outcome (q : Demand) (p : Backing × Device) : Except Failure Unit × Backing × Device :=
  p.1.ensure q.order q.capabilities p.2

/-- The backing and its device after the demand. -/
def after (p : Backing × Device) (q : Demand) : Backing × Device := (q.outcome p).2

/-- What it costs to meet the demand, where `p` is the backing and its device before and `p'`
afterwards. -/
structure Costs (q : Demand) (p p' : Backing × Device) : Prop where
  /-- Nothing at all exactly for a set that was made for the surface. -/
  free : p' = p ↔ p.1.IsMadeFor q.size q.quality q.owner
  /-- Else the objects of a new set, which take the place of those that are spent. -/
  paid : p' = p ∨ ∃ set, p'.1.set? = some set ∧ set.order = q.order ∧
    set.handles.length = (if 1 < set.layout.samples then 5 else 3) ∧
    p.2.Exchanges p'.2 (p.1.spent q.owner) set.handles
  /-- The same demand again costs nothing, whatever the capabilities. -/
  again : ∀ caps, outcome { q with capabilities := caps } p' = (.ok (), p')

theorem reachable_after {p : Backing × Device} (hp : p.2.Reachable) (q : Demand) :
    (after p q).2.Reachable := by
  have h : p.1.ensure q.order q.capabilities p.2 = ((q.outcome p).1, after p q) := rfl
  exact reachable_ensure hp h

variable {q : Demand} {p p' : Backing × Device}

/-- A set that was made for the surface meets the demand as it is. -/
theorem outcome_of_isMadeFor (h : p.1.IsMadeFor q.size q.quality q.owner) :
    q.outcome p = (.ok (), p) :=
  ensure_of_serves ((serves_iff_isMadeFor ..).mpr h)

/-- A set that was made to order meets the same demand under all capabilities. -/
theorem isMadeFor_of_order {set : BufferSet} (hset : p.1.set? = some set)
    (ho : set.order = q.order) : p.1.IsMadeFor q.size q.quality q.owner := by
  refine ⟨set, hset, ?_, ?_, ?_⟩ <;> rw [ho]
  · exact Context.compatible_self q.owner
  · rfl
  · rfl

theorem costs_of_outcome (hp : p.2.Reachable) (h : q.outcome p = (.ok (), p')) :
    q.Costs p p' := by
  by_cases hmade : p.1.IsMadeFor q.size q.quality q.owner
  · obtain rfl : p = p' := by
      rw [outcome_of_isMadeFor hmade] at h
      exact congrArg Prod.snd h
    exact ⟨⟨fun _ => hmade, fun _ => rfl⟩, Or.inl rfl, fun caps => outcome_of_isMadeFor hmade⟩
  · obtain ⟨set, hset, ho, hlength, hexchange⟩ :=
      exchanges_of_ensure hp ((not_serves_iff ..).mpr hmade) h
    have hchanged : p' ≠ p := by
      rintro rfl
      have hcreated := hexchange.created
      rw [hlength] at hcreated
      split at hcreated <;> omega
    refine ⟨⟨fun he => absurd he hchanged, fun hm => absurd hm hmade⟩,
      Or.inr ⟨set, hset, ho, hlength, hexchange⟩, fun caps => ?_⟩
    exact outcome_of_isMadeFor (isMadeFor_of_order hset ho)

end Demand

/-- In every sequence of demands, each one that is met costs nothing if the set was made for the
surface, and else three or five new objects in place of those of the old set that are still there.
No demand that was just met costs anything. -/
theorem costs_of_demands (hd : d.Reachable) (b : Backing) (demands : List Demand) :
    ∀ step ∈ trail Demand.after (b, d) demands, ∀ p,
      step.2.outcome step.1 = (.ok (), p) → step.2.Costs step.1 p := by
  have hreachable := forall_mem_trail (P := fun p => p.2.Reachable)
    (fun p q hp => Demand.reachable_after hp q) (s := (b, d)) hd demands
  intro step hstep p h
  exact Demand.costs_of_outcome (hreachable step hstep) h

/-- A set of four samples, the same for other capabilities and a quality that comes to as many, a
set of another size, and a set for a context that does not go with it: thirteen objects are made and
five deleted. -/
theorem costs_of_four_demands :
    let d := Device.create .full
    let demands : List Demand :=
      [⟨⟨5, 3⟩, 4, .live 1, d.driver.profile.capabilities⟩, ⟨⟨5, 3⟩, 5, .uninitialized, .none⟩,
        ⟨⟨8, 3⟩, 4, .live 1, d.driver.profile.capabilities⟩, ⟨⟨8, 3⟩, 1, .live 2, .none⟩]
    d.Reachable ∧
      (∀ step ∈ trail Demand.after (uninitialized, d) demands, ∃ p,
        step.2.outcome step.1 = (.ok (), p) ∧ step.2.Costs step.1 p) ∧
      (demands.foldl Demand.after (uninitialized, d)).2.driver.statistics.created = 13 ∧
      (demands.foldl Demand.after (uninitialized, d)).2.driver.statistics.deleted = 5 := by
  intro d demands
  have hd : d.Reachable := .create .full
  have hruns : (∀ step ∈ trail Demand.after (uninitialized, d) demands,
      (step.2.outcome step.1).1 = .ok ()) ∧
      (demands.foldl Demand.after (uninitialized, d)).2.driver.statistics.created = 13 ∧
      (demands.foldl Demand.after (uninitialized, d)).2.driver.statistics.deleted = 5 := by
    decide +kernel
  obtain ⟨hmet, hcreated, hdeleted⟩ := hruns
  refine ⟨hd, ?_, hcreated, hdeleted⟩
  intro step hstep
  have houtcome : step.2.outcome step.1 = (.ok (), (step.2.outcome step.1).2) :=
    Prod.ext (hmet step hstep) rfl
  exact ⟨_, houtcome, costs_of_demands hd uninitialized demands step hstep _ houtcome⟩

end Backing

end Compositor
