import Compositor.Proofs.Device.Confinement
import Compositor.Proofs.Program.Caching

/-!
# The calls that build a program

Building a program takes a few kinds of calls. They bind nothing, and no program is deleted but the
one that was made on the way. Two shaders are made before it, so it gets the third name from then
on. So the bindings are the same afterwards, except that this name, if it was put to use before it
was handed out, goes out of use together with the program that was given it.
-/

namespace Compositor

/-- Whether a call is one of those that build a program or give it up. -/
def Call.crafts : Call → Bool
  | create (.shader _) | create .program | compile .. | attachShader .. | link _ | deleteShader _
  | deleteProgram _ => true
  | _ => false

/-- The call is one of those that build a program, and it deletes no program but one. -/
def Call.Crafts (id : ProgramId) (c : Call) : Prop :=
  c.crafts = true ∧ ∀ other, c = .deleteProgram other → other = id

/-- The name that a program gets whose two shaders are made first. -/
def Driver.programToCome (d : Driver) : ProgramId := ⟨d.objects.issued + 3⟩

namespace Device

variable {base d e : Device} {id : ProgramId}

/-- A shader that is made takes one name. -/
theorem issued_makeShader {stage : Stage} {source : String} {shader : ShaderId}
    (h : d.makeShader stage source = (.ok shader, e)) :
    e.driver.objects.issued = d.driver.objects.issued + 1 := by
  obtain ⟨_, -, ho⟩ | ⟨name, d₁, ha, ⟨hc, -⟩ | ⟨_, -, ho, -⟩⟩ := makeShader_cases h
  · cases ho
  · obtain ⟨during, after, hcompile⟩ := d₁.compile_driver ⟨name⟩ source
    rw [hc] at hcompile
    rw [hcompile, ← Driver.issued_perform_create d.driver (.shader stage), ← (attempt_ok ha).2.1]
    exact Driver.issued_perform _ rfl
  · cases ho

theorem confined_makeShader (h : base.Confined (·.Crafts id) d) {stage : Stage}
    {source : String} {outcome : Except Failure ShaderId}
    (hm : d.makeShader stage source = (outcome, e)) : base.Confined (·.Crafts id) e := by
  have hmake := h.attempt (.shader stage) ⟨rfl, nofun⟩
  obtain ⟨_, ha, -⟩ | ⟨name, d₁, ha, hcases⟩ := makeShader_cases hm
  all_goals rw [ha] at hmake
  · exact hmake
  have hcompile := hmake.compile ⟨name⟩ source ⟨rfl, nofun⟩
  obtain ⟨hc, -⟩ | ⟨d₂, hc, -, rfl⟩ := hcases
  all_goals rw [hc] at hcompile
  · exact hcompile
  · exact hcompile.perform ⟨rfl, nofun⟩

/-- The program that is made has the next name, and no other program is deleted. -/
theorem confined_linkShaders (h : base.Confined (·.Crafts id) d)
    (hid : id.name = d.driver.objects.issued + 1) {vertex fragment : ShaderId}
    {outcome : Except Failure ProgramId} (hl : d.linkShaders vertex fragment = (outcome, e)) :
    base.Confined (·.Crafts id) e := by
  have hdelete (shader : ShaderId) : (Call.deleteShader shader).Crafts id := ⟨rfl, nofun⟩
  have hmake := h.attempt .program ⟨rfl, nofun⟩
  obtain ⟨_, d₁, ha, -, rfl⟩ | ⟨name, d₁, ha, hcases⟩ := linkShaders_cases hl
  all_goals rw [ha] at hmake
  · exact hmake.performAll (by simp [hdelete])
  · obtain rfl : id = ⟨name⟩ := congrArg ObjectId.mk (hid.trans (attempt_ok ha).1.symm)
    have hattach : ∀ c ∈ [Call.attachShader ⟨name⟩ vertex, .attachShader ⟨name⟩ fragment],
        c.Crafts ⟨name⟩ := by
      simp [Call.Crafts, Call.crafts]
    have hlinking : (Call.link ⟨name⟩).Crafts ⟨name⟩ := ⟨rfl, nofun⟩
    have hlink := (hmake.performAll hattach).perform hlinking
    obtain ⟨hc, -⟩ | ⟨d₂, hc, -, rfl⟩ := hcases
    · obtain rfl : _ = e := congrArg Prod.snd hc
      exact hlink
    · obtain rfl : _ = d₂ := congrArg Prod.snd hc
      -- the program that is deleted was made just now
      have hprogram : (Call.deleteProgram ⟨name⟩).Crafts ⟨name⟩ := by
        refine ⟨rfl, ?_⟩
        rintro other ⟨⟩
        rfl
      exact hlink.performAll (by simp [hdelete, hprogram])

theorem confined_buildProgram {purpose : Purpose} {outcome : Except Failure BuiltProgram}
    (h : d.buildProgram purpose = (outcome, e)) :
    d.Confined (·.Crafts d.driver.programToCome) e := by
  obtain ⟨_, hv, -⟩ | ⟨vertex, d₁, hv, hcases⟩ := buildProgram_cases h
  · exact confined_makeShader .refl hv
  have hvertex : d.Confined (·.Crafts d.driver.programToCome) d₁ := confined_makeShader .refl hv
  obtain ⟨_, d₂, hf, -, rfl⟩ | ⟨fragment, d₂, hf, linked, hl, -⟩ := hcases
  · exact (confined_makeShader hvertex hf).perform ⟨rfl, nofun⟩
  · refine confined_linkShaders (confined_makeShader hvertex hf) ?_ hl
    rw [issued_makeShader hf, issued_makeShader hv]
    rfl

/-- After a program was built the bindings are the same, or the name that was to come is out of
use. -/
theorem Confined.bindings_of_crafts (h : d.Confined (·.Crafts id) e) :
    e.driver.bindings = d.driver.bindings ∨
      d.driver.bindings.program = some id ∧
        e.driver.bindings = { d.driver.bindings with program := none } := by
  refine h.keeps (P := fun v => v.bindings = d.driver.bindings ∨
    d.driver.bindings.program = some id ∧
      v.bindings = { d.driver.bindings with program := none }) ?_ (fun _ _ hv => hv) (Or.inl rfl)
  intro c hc v hv
  cases hs : c.setsBindings with
  | false => rwa [v.bindings_perform hs]
  | true =>
    -- of the calls that set bindings only a deletion is among those that build
    obtain rfl : c = .deleteProgram id := by
      obtain ⟨hcrafts, honly⟩ := hc
      cases c <;> first
        | rw [honly _ rfl]
        | exact absurd hs Bool.false_ne_true
        | exact absurd hcrafts Bool.false_ne_true
    have hbindings : (v.perform (.deleteProgram id)).bindings = { v.bindings with
        program := if v.bindings.program = some id then none else v.bindings.program } := rfl
    rw [hbindings]
    rcases hv with hv | ⟨hid, hv⟩
    · by_cases hp : d.driver.bindings.program = some id
      · exact Or.inr ⟨hp, by rw [hv, if_pos hp]⟩
      · exact Or.inl (by rw [hv, if_neg hp])
    · exact Or.inr ⟨hid, by rw [hv]; rfl⟩

end Device

/-- Asking the cache for a program takes the calls that build one, if any. -/
theorem ProgramCache.confined_entry {c c' : ProgramCache} {purpose : Purpose} {context : Context}
    {d e : Device} {entry : CachedProgram} (h : c.entry purpose context d = (entry, c', e)) :
    d.Confined (·.Crafts d.driver.programToCome) e := by
  obtain ⟨-, rfl, -⟩ | ⟨outcome, -, hb, -⟩ := entry_cases h
  · exact .refl
  · exact Device.confined_buildProgram hb

end Compositor
