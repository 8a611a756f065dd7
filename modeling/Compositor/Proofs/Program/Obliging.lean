import Compositor.Proofs.Program.Caching

/-!
# Programs without faults

A device that refuses no creation, spoils no compilation and pretends no failure builds the program
for every purpose. So no entry of a cache that is used with it says that there is none.
-/

namespace Compositor

/-- Every text has an entry point, without which a driver compiles nothing. -/
theorem Purpose.mentions_main (purpose : Purpose) :
    Text.occursIn "main".toList purpose.vertexSource.toList = true ∧
      Text.occursIn "main".toList purpose.fragmentSource.toList = true := by
  rcases purpose with (_ | _) | _
  all_goals
    simp only [Purpose.vertexSource, Purpose.fragmentSource, Source.texturedVertex,
      Source.solidVertex, Source.texturedFragment, Source.solidFragment, Source.toList_lines]
    decide +kernel

namespace Device

/-- Nothing that is needed to build a program fails by the device. -/
structure IsObliging (d : Device) : Prop where
  grants : ∀ n, d.faults.refuses n = false
  spares : ∀ n, d.faults.spoils n = false
  compiles : d.driver.pretence.failCompile = false
  links : d.driver.pretence.failLink = false

namespace IsObliging

variable {d e : Device}

theorem congr (h : d.IsObliging) (hf : e.faults = d.faults)
    (hp : e.driver.pretence = d.driver.pretence) : e.IsObliging := by
  refine ⟨?_, ?_, ?_, ?_⟩
  · rw [hf]
    exact h.grants
  · rw [hf]
    exact h.spares
  · rw [hp]
    exact h.compiles
  · rw [hp]
    exact h.links

theorem perform (h : d.IsObliging) (c : Call) : (d.perform c).IsObliging :=
  h.congr rfl (d.driver.pretence_perform c)

theorem performAll (h : d.IsObliging) (calls : List Call) : (d.performAll calls).IsObliging := by
  induction calls generalizing d with
  | nil => exact h
  | cons c calls ih => exact ih (h.perform c)

theorem attempt (h : d.IsObliging) (what : Creation) :
    ∃ e, d.attempt what = (.ok (d.driver.objects.issued + 1), e) ∧
      e.driver = d.driver.perform (.create what) ∧ e.IsObliging := by
  unfold Device.attempt
  rw [h.grants, if_neg Bool.false_ne_true]
  exact ⟨_, rfl, rfl, h.congr rfl (d.driver.pretence_perform _)⟩

theorem compile (h : d.IsObliging) {id : ShaderId} {s : Shader}
    (hs : d.driver.objects.shaders.get? id = some s) {source : String}
    (hm : Text.occursIn "main".toList source.toList = true) :
    ∃ e, d.compile id source = (true, e) ∧ e.IsObliging := by
  unfold Device.compile
  rw [h.spares]
  refine ⟨_, Prod.ext ?_ rfl, h.congr rfl rfl⟩
  show Driver.isCompiled (d.driver.compile id source) id = true
  have hcompiled : (s.compile false source).compiled = true := by
    unfold Shader.compile Shader.mentions
    rw [if_neg Bool.false_ne_true, if_pos hm]
  rw [Driver.isCompiled, Driver.compile, h.compiles]
  dsimp only
  rw [Table.get?_modify, if_pos rfl, hs]
  exact hcompiled

theorem makeShader (h : d.IsObliging) (stage : Stage) {source : String}
    (hm : Text.occursIn "main".toList source.toList = true) :
    ∃ id e, d.makeShader stage source = (.ok id, e) ∧ e.IsObliging := by
  obtain ⟨d₁, ha, hd, h₁⟩ := h.attempt (.shader stage)
  have hs : d₁.driver.objects.shaders.get? ⟨d.driver.objects.issued + 1⟩ =
      some ⟨stage, "", false, ""⟩ := by
    rw [hd]
    show (d.driver.objects.shaders.insert _ _).get? _ = _
    rw [Table.get?_insert, if_pos rfl]
  obtain ⟨e, hc, he⟩ := h₁.compile hs hm
  refine ⟨⟨d.driver.objects.issued + 1⟩, e, ?_, he⟩
  unfold Device.makeShader
  rw [ha]
  dsimp only
  rw [hc]

theorem link (h : d.IsObliging) {id : ProgramId} {p : Program} {v f : Shader}
    (hp : d.driver.objects.programs.get? id = some p)
    (hv : d.driver.attached? p .vertex = some v) (hvc : v.compiled = true)
    (hf : d.driver.attached? p .fragment = some f) (hfc : f.compiled = true) :
    ∃ e, d.link id = (true, e) ∧ e.IsObliging := by
  refine ⟨_, Prod.ext ?_ rfl, h.perform _⟩
  show Driver.isLinked (d.driver.link id) id = true
  rw [Driver.isLinked, Driver.link, h.links]
  dsimp only
  rw [Table.get?_modify, if_pos rfl, hp, Option.map_some, hv, hf]
  simp [Program.link, Option.filter, hvc, hfc]

/-- A fresh program to which a shader of either stage was attached. -/
theorem attached_of_fresh {id : ProgramId} {vertex fragment : ShaderId} {v f : Shader}
    (hp : d.driver.objects.programs.get? id = some .fresh)
    (hv : d.driver.objects.shaders.get? vertex = some v) (hvs : v.stage = .vertex)
    (hf : d.driver.objects.shaders.get? fragment = some f) (hfs : f.stage = .fragment) :
    let e := d.performAll [.attachShader id vertex, .attachShader id fragment]
    ∃ p, e.driver.objects.programs.get? id = some p ∧
      e.driver.attached? p .vertex = some v ∧ e.driver.attached? p .fragment = some f := by
  intro e
  have hshaders : e.driver.objects.shaders = d.driver.objects.shaders := rfl
  refine ⟨{ Program.fresh with shaders := [vertex, fragment] }, ?_, ?_, ?_⟩
  · show ((d.driver.objects.programs.modify id
      fun p => { p with shaders := p.shaders ++ [vertex] }).modify id
        fun p => { p with shaders := p.shaders ++ [fragment] }).get? id = _
    rw [Table.get?_modify, if_pos rfl, Table.get?_modify, if_pos rfl, hp]
    rfl
  · simp [Driver.attached?, hshaders, hv, hf, hvs, hfs]
  · simp [Driver.attached?, hshaders, hv, hf, hfs]

theorem linkShaders (h : d.IsObliging) {vertex fragment : ShaderId} {v f : Shader}
    {vs fs : String} (hv : d.driver.objects.shaders.get? vertex = some v)
    (hvc : Compiled .vertex vs v) (hf : d.driver.objects.shaders.get? fragment = some f)
    (hfc : Compiled .fragment fs f) :
    ∃ id e, d.linkShaders vertex fragment = (.ok id, e) ∧ e.IsObliging := by
  obtain ⟨d₁, ha, hd, h₁⟩ := h.attempt .program
  let id : ProgramId := ⟨d.driver.objects.issued + 1⟩
  have hprogram : d₁.driver.objects.programs.get? id = some .fresh := by
    rw [hd]
    show (d.driver.objects.programs.insert id .fresh).get? id = _
    rw [Table.get?_insert, if_pos rfl]
  -- the shaders are those of before
  have hshaders : d₁.driver.objects.shaders = d.driver.objects.shaders := by
    rw [hd]
    rfl
  rw [← hshaders] at hv hf
  obtain ⟨p, hp, hpv, hpf⟩ := attached_of_fresh hprogram hv hvc.stage hf hfc.stage
  obtain ⟨e, hl, he⟩ := (h₁.performAll _).link hp hpv hvc.compiled hpf hfc.compiled
  refine ⟨id, e, ?_, he⟩
  unfold Device.linkShaders
  rw [ha]
  dsimp only
  rw [hl]

/-- The program for a purpose is built. -/
theorem buildProgram (h : d.IsObliging) (hr : d.driver.objects.Regular) (purpose : Purpose) :
    ∃ p e, d.buildProgram purpose = (.ok p, e) ∧ e.IsObliging := by
  obtain ⟨hvm, hfm⟩ := purpose.mentions_main
  obtain ⟨vertex, d₁, hv, h₁⟩ := h.makeShader .vertex hvm
  obtain ⟨v, hb₁, hvc⟩ := builds_makeShader hr hv
  have hr₁ := hb₁.adds.grows.regular hr
  obtain ⟨fragment, d₂, hf, h₂⟩ := h₁.makeShader .fragment hfm
  obtain ⟨f, hb₂, hfc⟩ := builds_makeShader hr₁ hf
  have hb := hb₁.trans hb₂ hr
  have hvertex : d₂.driver.objects.shaders.get? vertex = some v :=
    hb.adds.get?_of_mem (k := .shader) (by simp [Kind.store])
  have hfragment : d₂.driver.objects.shaders.get? fragment = some f :=
    hb.adds.get?_of_mem (k := .shader) (by simp [Kind.store])
  obtain ⟨id, e, hl, he⟩ := h₂.linkShaders hvertex hvc hfragment hfc
  refine ⟨.locate purpose id vertex fragment e.driver, e, ?_, he⟩
  unfold Device.buildProgram
  rw [hv]
  dsimp only
  rw [hf]
  dsimp only
  rw [hl]

end IsObliging

end Device

namespace ProgramCache

/-- No program is known to be missing. -/
def IsWhole (c : ProgramCache) : Prop := ∀ purpose, c.failure? purpose = none

/-- An obliging device gives every program that is asked for. -/
theorem IsWhole.entry {c c' : ProgramCache} {d e : Device} {purpose : Purpose} {context : Context}
    {entry : CachedProgram} (h : c.IsWhole) (hd : d.IsObliging) (hr : d.driver.objects.Regular)
    (he : c.entry purpose context d = (entry, c', e)) : c'.IsWhole ∧ e.IsObliging := by
  obtain ⟨-, rfl, rfl⟩ | ⟨outcome, -, hb, rfl, rfl⟩ := entry_cases he
  · exact ⟨h, hd⟩
  · obtain ⟨p, e', hp, he'⟩ := hd.buildProgram hr purpose
    rw [hb] at hp
    cases hp
    refine ⟨fun other => ?_, he'⟩
    by_cases ho : other = purpose
    · subst ho
      simp [failure?, insert, CachedProgram.failure?]
    · have hold := h other
      simpa [failure?, insert, ho] using hold

end ProgramCache

end Compositor
