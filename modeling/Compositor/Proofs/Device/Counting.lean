import Compositor.Proofs.Program.Building

/-!
# Counting work

How much of two kinds of work a device is given: making objects of buffer sets, and linking
programs. `Device.Costs` relates two devices by the work between them. Most calls cost nothing of
either kind; a program that is built costs one link.
-/

namespace Compositor

/-- Whether a call makes no object and links no program. -/
def Call.isFree : Call → Bool
  | create _ | link _ => false
  | _ => true

theorem Call.isFree_of_isQuiet {c : Call} (h : c.isQuiet = true) : c.isFree = true := by
  cases c <;> first | rfl | cases h

/-- Whether a creation makes an object of a buffer set. -/
def Creation.isBuffer : Creation → Bool
  | texture | framebuffer | renderbuffer => true
  | shader _ | program => false

/-- What a call adds to the counts; `gone` tells whether it deleted an object. -/
def Call.tally (c : Call) (gone : Bool) (s : Statistics) : Statistics :=
  match c with
  | create .texture => { s with textures := s.textures + 1 }
  | create .framebuffer => { s with framebuffers := s.framebuffers + 1 }
  | create .renderbuffer => { s with renderbuffers := s.renderbuffers + 1 }
  | create (.shader _) => { s with shaders := s.shaders + 1 }
  | create .program => { s with programs := s.programs + 1 }
  | compile .. => { s with compiles := s.compiles + 1 }
  | link _ => { s with links := s.links + 1 }
  | deleteTexture _ | deleteFramebuffer _ | deleteRenderbuffer _ | deleteShader _
  | deleteProgram _ => { s with deleted := s.deleted + gone.toNat }
  | clear _ => { s with clears := s.clears + 1 }
  | copy .. => { s with copies := s.copies + 1 }
  | drawStrip .. => { s with draws := s.draws + 1 }
  | _ => s

namespace Driver

theorem statistics_paint (d : Driver) (slot : Attachment) (f : Fill → Fill) :
    (d.paint slot f).statistics = d.statistics := by
  unfold paint
  split
  · rfl
  · split <;> rfl

theorem statistics_copy (d : Driver) (source target : Rect) (planes : Planes) (filter : Filter) :
    (d.copy source target planes filter).statistics =
      { d.statistics with copies := d.statistics.copies + 1 } := by
  unfold copy paintColor paintDepth paintStencil
  dsimp only
  split <;> split <;> split <;> simp only [statistics_paint]

theorem statistics_clear (d : Driver) (planes : Planes) :
    (d.clear planes).statistics = { d.statistics with clears := d.statistics.clears + 1 } := by
  unfold clear paintColor paintDepth paintStencil
  dsimp only
  split <;> split <;> split <;> simp only [statistics_paint]

theorem statistics_drawStrip (d : Driver) (streams : List VertexStream) (count : Nat) :
    (d.drawStrip streams count).statistics =
      { d.statistics with draws := d.statistics.draws + 1 } := by
  unfold drawStrip paintColor
  dsimp only
  split
  · rfl
  · split
    · rfl
    · rw [statistics_paint]

/-- Every call adds to the counts what it says. -/
theorem statistics_perform (d : Driver) (c : Call) :
    (d.perform c).statistics =
      c.tally (c.deletes?.any fun x => (d.objects.stored? x).isSome) d.statistics := by
  have deleted {k : Kind} (id : ObjectId k) :
      (d.countDeleted ((d.objects.table k).contains id)).statistics = { d.statistics with
        deleted := d.statistics.deleted + (d.objects.stored? id.handle).isSome.toNat } := by
    rw [Objects.stored?_handle, Option.isSome_map, Table.contains, countDeleted]
    cases ((d.objects.table k).get? id).isSome <;> rfl
  cases c with
  | create what => cases what <;> rfl
  | deleteTexture id => exact deleted (k := .texture) id
  | deleteFramebuffer id => exact deleted (k := .framebuffer) id
  | deleteRenderbuffer id => exact deleted (k := .renderbuffer) id
  | deleteShader id => exact deleted (k := .shader) id
  | deleteProgram id => exact deleted (k := .program) id
  | copy source target planes filter => exact d.statistics_copy source target planes filter
  | clear planes => exact d.statistics_clear planes
  | drawStrip streams count => exact d.statistics_drawStrip streams count
  | textureImage target size =>
    simp only [perform, textureImage]
    split <;> rfl
  | attachTexture slot target id =>
    simp only [perform, attach]
    split <;> rfl
  | attachRenderbuffer slot id =>
    simp only [perform, attach]
    split <;> rfl
  | renderbufferStorage format samples size =>
    simp only [perform, renderbufferStorage]
    split <;> rfl
  | uniformColor location value =>
    simp only [perform, modifyProgram]
    split <;> rfl
  | uniformInt location value =>
    simp only [perform, modifyProgram]
    split <;> rfl
  | _ => rfl

/-- The driver got from `d` to `e` by making so many objects of buffer sets and linking so many
programs. -/
structure Costs (d e : Driver) (allocations links : Nat) : Prop where
  allocations : e.statistics.bufferAllocations = d.statistics.bufferAllocations + allocations
  links : e.statistics.links = d.statistics.links + links

theorem costs_perform (d : Driver) {c : Call} (h : c.isFree = true) :
    d.Costs (d.perform c) 0 0 := by
  constructor <;> rw [statistics_perform] <;> cases c <;> first | rfl | cases h

theorem costs_create (d : Driver) (what : Creation) :
    d.Costs (d.perform (.create what)) what.isBuffer.toNat 0 := by
  cases what <;> refine ⟨?_, rfl⟩ <;>
    simp only [perform, make, Statistics.bufferAllocations, Creation.isBuffer, Bool.toNat_true,
      Bool.toNat_false] <;> omega

end Driver

namespace Device

/-- The device got from `d` to `e` by making so many objects of buffer sets and linking so many
programs. -/
def Costs (d e : Device) (allocations links : Nat) : Prop :=
  d.driver.Costs e.driver allocations links

variable {d e : Device}

theorem Costs.refl (d : Device) : d.Costs d 0 0 := ⟨rfl, rfl⟩

theorem Costs.trans {f : Device} {a l a' l' : Nat} (h : d.Costs e a l) (h' : e.Costs f a' l') :
    d.Costs f (a + a') (l + l') :=
  ⟨by rw [h'.allocations, h.allocations, Nat.add_assoc], by rw [h'.links, h.links, Nat.add_assoc]⟩

/-- What costs nothing may come first. -/
theorem Costs.after {f : Device} {a l : Nat} (h : e.Costs f a l) (h' : d.Costs e 0 0) :
    d.Costs f a l := by
  simpa using h'.trans h

/-- What costs nothing may come last. -/
theorem Costs.before {f : Device} {a l : Nat} (h : d.Costs e a l) (h' : e.Costs f 0 0) :
    d.Costs f a l := h.trans h'

theorem costs_performAll (d : Device) {calls : List Call} (h : ∀ c ∈ calls, c.isFree = true) :
    d.Costs (d.performAll calls) 0 0 :=
  performAll_induct (P := fun v => d.driver.Costs v 0 0)
    (fun c hc v hv => Costs.before (d := d) (e := { d with driver := v })
      (f := { d with driver := v.perform c }) hv (v.costs_perform (h c hc))) (Costs.refl d)

theorem costs_attempt {what : Creation} {name : Nat} (h : d.attempt what = (.ok name, e)) :
    d.Costs e what.isBuffer.toNat 0 := by
  rw [Costs, (attempt_ok h).2.1]
  exact d.driver.costs_create what

theorem costs_compile (d : Device) (id : ShaderId) (source : String) :
    d.Costs (d.compile id source).2 0 0 := by
  obtain ⟨during, after, h⟩ := d.compile_driver id source
  rw [Costs, h]
  exact ⟨rfl, rfl⟩

/-! ## Programs -/

theorem costs_makeShader {stage : Stage} {source : String} {id : ShaderId}
    (h : d.makeShader stage source = (.ok id, e)) : d.Costs e 0 0 := by
  obtain ⟨_, -, hfailed⟩ | ⟨name, d₁, ha, ⟨hc, -⟩ | ⟨_, -, hfailed, -⟩⟩ := makeShader_cases h
  · cases hfailed
  · have hcompile := (d₁.costs_compile ⟨name⟩ source).after (costs_attempt ha)
    rwa [hc] at hcompile
  · cases hfailed

theorem costs_linkShaders {vertex fragment : ShaderId} {id : ProgramId}
    (h : d.linkShaders vertex fragment = (.ok id, e)) : d.Costs e 0 1 := by
  obtain ⟨_, _, -, hfailed, -⟩ | ⟨name, d₁, ha, ⟨hl, -⟩ | ⟨_, -, hfailed, -⟩⟩ :=
    linkShaders_cases h
  · cases hfailed
  · have hattach : d₁.Costs
        (d₁.performAll [.attachShader ⟨name⟩ vertex, .attachShader ⟨name⟩ fragment]) 0 0 :=
      d₁.costs_performAll (by simp [Call.isFree])
    have hlink (d : Device) : d.Costs (d.link ⟨name⟩).2 0 1 := ⟨rfl, rfl⟩
    have hlinked := ((hlink _).after hattach).after (costs_attempt ha)
    rwa [hl] at hlinked
  · cases hfailed

/-- A program that is built costs one link. -/
theorem costs_buildProgram {purpose : Purpose} {p : BuiltProgram}
    (h : d.buildProgram purpose = (.ok p, e)) : d.Costs e 0 1 := by
  obtain ⟨_, -, hfailed⟩ | ⟨vertex, d₁, hv, hcases⟩ := buildProgram_cases h
  · cases hfailed
  obtain ⟨_, _, -, hfailed, -⟩ | ⟨fragment, d₂, hf, linked, hl, hbuilt⟩ := hcases
  · cases hfailed
  cases linked with
  | error failure => cases hbuilt
  | ok id => exact ((costs_linkShaders hl).after (costs_makeShader hf)).after (costs_makeShader hv)

end Device

end Compositor
