import Compositor.Program.Build
import Compositor.Proofs.Device.Inventory
import Compositor.Proofs.Device.Reachable
import Compositor.Proofs.Program.Source

/-!
# Building programs

What building a program does to a device. If it succeeds, the device has the program and its two
shaders in addition, and the program paints what its purpose says; if it fails, all objects are as
they were. Neither changes the pipeline, the display or the framebuffers that are bound.
-/

namespace Compositor

theorem Shader.fields_compile (s : Shader) (fail : Bool) (source : String) :
    (s.compile fail source).stage = s.stage ∧ (s.compile fail source).source = source := by
  unfold compile
  dsimp only
  split
  · exact ⟨rfl, rfl⟩
  · split <;> exact ⟨rfl, rfl⟩

/-- A linked program paints with what its fragment shader says, and has the names that its shaders
declare. -/
structure Program.LinkedFrom (p : Program) (vertex fragment : Shader) : Prop where
  linked : p.linked = true
  paint : p.paint = fragment.paint
  attributes : p.attributes = vertex.declarations "attribute"
  uniforms : p.uniforms = vertex.declarations "uniform" ++ fragment.declarations "uniform"

theorem Program.linkedFrom_link {p : Program} {fail : Bool} {v f : Shader}
    (hv : v.compiled = true) (hf : f.compiled = true)
    (h : (p.link fail (some v) (some f)).linked = true) :
    (p.link fail (some v) (some f)).LinkedFrom v f := by
  cases fail with
  | true => cases h
  | false =>
    have hv' : (some v).filter (·.compiled) = some v := Option.filter_some_pos hv
    have hf' : (some f).filter (·.compiled) = some f := Option.filter_some_pos hf
    constructor <;> simp [link, hv', hf']

namespace Device

/-! ## The steps of building -/

section Steps

variable {d e : Device}

/-- A shader is made and compiled, and deleted again if that fails. -/
theorem makeShader_cases {stage : Stage} {source : String} {outcome : Except Failure ShaderId}
    (h : d.makeShader stage source = (outcome, e)) :
    (∃ failure, d.attempt (.shader stage) = (.error failure, e) ∧ outcome = .error failure) ∨
      ∃ name d₁, d.attempt (.shader stage) = (.ok name, d₁) ∧
        ((d₁.compile ⟨name⟩ source = (true, e) ∧ outcome = .ok ⟨name⟩) ∨
          ∃ d₂, d₁.compile ⟨name⟩ source = (false, d₂) ∧
            outcome = .error (.shaderCompile stage (d₂.driver.shaderLog ⟨name⟩)) ∧
            e = d₂.perform (.deleteShader ⟨name⟩)) := by
  unfold makeShader at h
  rcases ha : d.attempt (.shader stage) with ⟨failure | name, d₁⟩
  · rw [ha] at h
    cases h
    exact Or.inl ⟨failure, rfl, rfl⟩
  · rw [ha] at h
    dsimp only at h
    refine Or.inr ⟨name, d₁, rfl, ?_⟩
    rcases hc : d₁.compile ⟨name⟩ source with ⟨_ | _, d₂⟩
    all_goals
      rw [hc] at h
      cases h
    · exact Or.inr ⟨d₂, rfl, rfl, rfl⟩
    · exact Or.inl ⟨rfl, rfl⟩

/-- A program is made and linked, and deleted again with its shaders if that fails. -/
theorem linkShaders_cases {vertex fragment : ShaderId} {outcome : Except Failure ProgramId}
    (h : d.linkShaders vertex fragment = (outcome, e)) :
    (∃ failure d₁, d.attempt .program = (.error failure, d₁) ∧ outcome = .error failure ∧
        e = d₁.performAll [.deleteShader vertex, .deleteShader fragment]) ∨
      ∃ name d₁, d.attempt .program = (.ok name, d₁) ∧
        (((d₁.performAll [.attachShader ⟨name⟩ vertex, .attachShader ⟨name⟩ fragment]).link ⟨name⟩ =
            (true, e) ∧ outcome = .ok ⟨name⟩) ∨
          ∃ d₂, (d₁.performAll [.attachShader ⟨name⟩ vertex,
              .attachShader ⟨name⟩ fragment]).link ⟨name⟩ = (false, d₂) ∧
            outcome = .error (.shaderLink (d₂.driver.programLog ⟨name⟩)) ∧
            e = d₂.performAll
              [.deleteProgram ⟨name⟩, .deleteShader vertex, .deleteShader fragment]) := by
  unfold linkShaders at h
  rcases ha : d.attempt .program with ⟨failure | name, d₁⟩
  · rw [ha] at h
    cases h
    exact Or.inl ⟨failure, d₁, rfl, rfl, rfl⟩
  · rw [ha] at h
    dsimp only at h
    refine Or.inr ⟨name, d₁, rfl, ?_⟩
    rcases hl : (d₁.performAll [.attachShader ⟨name⟩ vertex,
      .attachShader ⟨name⟩ fragment]).link ⟨name⟩ with ⟨_ | _, d₂⟩
    all_goals
      rw [hl] at h
      cases h
    · exact Or.inr ⟨d₂, rfl, rfl, rfl⟩
    · exact Or.inl ⟨rfl, rfl⟩

/-- The shaders are made one after the other and linked. What was made is deleted on a failure. -/
theorem buildProgram_cases {purpose : Purpose} {outcome : Except Failure BuiltProgram}
    (h : d.buildProgram purpose = (outcome, e)) :
    (∃ failure, d.makeShader .vertex purpose.vertexSource = (.error failure, e) ∧
        outcome = .error failure) ∨
      ∃ vertex d₁, d.makeShader .vertex purpose.vertexSource = (.ok vertex, d₁) ∧
        ((∃ failure d₂, d₁.makeShader .fragment purpose.fragmentSource = (.error failure, d₂) ∧
            outcome = .error failure ∧ e = d₂.perform (.deleteShader vertex)) ∨
          ∃ fragment d₂, d₁.makeShader .fragment purpose.fragmentSource = (.ok fragment, d₂) ∧
            ∃ linked, d₂.linkShaders vertex fragment = (linked, e) ∧
              outcome = linked.map (.locate purpose · vertex fragment e.driver)) := by
  unfold buildProgram at h
  rcases hv : d.makeShader .vertex purpose.vertexSource with ⟨failure | vertex, d₁⟩
  · rw [hv] at h
    cases h
    exact Or.inl ⟨failure, rfl, rfl⟩
  rw [hv] at h
  dsimp only at h
  refine Or.inr ⟨vertex, d₁, rfl, ?_⟩
  rcases hf : d₁.makeShader .fragment purpose.fragmentSource with ⟨failure | fragment, d₂⟩
  · rw [hf] at h
    cases h
    exact Or.inl ⟨failure, d₂, rfl, rfl, rfl⟩
  rw [hf] at h
  dsimp only at h
  refine Or.inr ⟨fragment, d₂, rfl, ?_⟩
  rcases hl : d₂.linkShaders vertex fragment with ⟨failure | id, d₃⟩
  all_goals
    rw [hl] at h
    cases h
  · exact ⟨.error failure, rfl, rfl⟩
  · exact ⟨.ok id, rfl, rfl⟩

end Steps

/-! ## Scenes -/

/-- What is drawn to and how, which making programs leaves alone. -/
structure SameScene (d e : Device) : Prop where
  pipeline : e.driver.pipeline = d.driver.pipeline
  display : e.driver.display = d.driver.display
  read : e.driver.bindings.read = d.driver.bindings.read
  draw : e.driver.bindings.draw = d.driver.bindings.draw

theorem SameScene.refl (d : Device) : d.SameScene d := ⟨rfl, rfl, rfl, rfl⟩

theorem SameScene.trans {d e f : Device} (h : d.SameScene e) (h' : e.SameScene f) :
    d.SameScene f :=
  ⟨h'.pipeline.trans h.pipeline, h'.display.trans h.display, h'.read.trans h.read,
    h'.draw.trans h.draw⟩

theorem sameScene_perform (d : Device) {c : Call} (hp : c.paints = false)
    (hs : c.setsPipeline = false) (hb : c.setsFramebuffer = false) : d.SameScene (d.perform c) :=
  ⟨d.driver.pipeline_perform hs, d.driver.display_perform hp, (d.driver.framebuffers_perform hb).1,
    (d.driver.framebuffers_perform hb).2⟩

theorem sameScene_compile (d : Device) (id : ShaderId) (source : String) :
    d.SameScene (d.compile id source).2 := by
  obtain ⟨during, after, h⟩ := d.compile_driver id source
  constructor <;> rw [h] <;> rfl

theorem sameScene_attempt (d : Device) (what : Creation) : d.SameScene (d.attempt what).2 := by
  unfold attempt
  dsimp only
  split
  · exact ⟨rfl, rfl, rfl, rfl⟩
  · cases what <;> exact ⟨rfl, rfl, rfl, rfl⟩

/-! ## Compiling -/

/-- Compiling a shader that came in meanwhile goes on growing. -/
theorem Grows.compile {d e : Device} {new : List Handle} (h : d.Grows e new) {id : ShaderId}
    (hx : id.handle ∈ new) (source : String) : d.Grows (e.compile id source).2 new := by
  refine ⟨fun x hn => ?_, fun x => ?_, h.fresh, h.nodup, h.edits.trans (edits_compile e id source),
    h.host.trans (e.sameHost_compile id source), h.orderly.compile id source⟩
  · have hold : x ≠ id.handle := by
      rintro rfl
      have := h.fresh _ hx
      omega
    rw [e.outline_compile source hold, h.outline x hn]
  · rw [e.live_compile, h.live]

theorem Adds.compile {base d : Device} {a : Inventory} (h : base.Adds d a) {id : ShaderId}
    (hx : id.handle ∈ a.handles) (source : String) :
    ∃ fail, base.Adds (d.compile id source).2
      (a.alter id.handle (Stored.mapObject .shader (·.compile fail source))) := by
  obtain ⟨during, after, he⟩ := d.compile_driver id source
  refine ⟨during, fun y => ?_, ?_⟩
  · rw [he]
    have halter := Driver.alters_compile
      { d.driver with pretence := { d.driver.pretence with failCompile := during } } id source
    exact (halter.stored y).trans (h.stored_alter hx _ y)
  · rw [Inventory.handles_alter]
    exact h.grows.compile hx source

/-! ## Building -/

/-- The device `e` is `d` with the objects of the inventory, in the same scene. -/
structure Builds (d e : Device) (a : Inventory) : Prop where
  adds : d.Adds e a
  scene : d.SameScene e

namespace Builds

variable {base d e : Device} {a : Inventory}

theorem refl (d : Device) : d.Builds d [] := ⟨.refl d, .refl d⟩

theorem trans {b : Inventory} (h : base.Builds d a) (h' : d.Builds e b)
    (hr : base.driver.objects.Regular) : base.Builds e (b ++ a) :=
  ⟨h.adds.trans h'.adds hr, h.scene.trans h'.scene⟩

theorem attempt (h : base.Builds d a) (hr : base.driver.objects.Regular) {what : Creation}
    {name : Nat} (ha : d.attempt what = (.ok name, e)) :
    base.Builds e ((⟨what.kind, name⟩, what.kind.store what.object) :: a) := by
  have hs := d.sameScene_attempt what
  rw [ha] at hs
  exact ⟨h.adds.attempt hr ha, h.scene.trans hs⟩

theorem refused (h : base.Builds d a) (hr : base.driver.objects.Regular) {what : Creation}
    {failure : Failure} (ha : d.attempt what = (.error failure, e)) : base.Builds e a := by
  have hs := d.sameScene_attempt what
  rw [ha] at hs
  exact ⟨h.adds.refused hr ha, h.scene.trans hs⟩

theorem alter (h : base.Builds d a) {c : Call} {x : Handle} {f : Stored → Stored}
    (hc : d.driver.Alters c x f) (hx : x ∈ a.handles) (hp : c.paints = false)
    (hs : c.setsPipeline = false) (hb : c.setsFramebuffer = false) :
    base.Builds (d.perform c) (a.alter x f) :=
  ⟨h.adds.alter hc hx, h.scene.trans (d.sameScene_perform hp hs hb)⟩

/-- All objects of the inventory are deleted again. -/
theorem delete (h : base.Builds d a) (hr : base.driver.objects.Regular) {calls : List Call}
    {gone : List Handle} (hc : calls.map Call.deletes? = gone.map some) (hg : gone.Perm a.handles)
    (hs : ∀ c ∈ calls, c.paints = false ∧ c.setsPipeline = false ∧ c.setsFramebuffer = false) :
    base.Builds (d.performAll calls) [] := by
  refine ⟨h.adds.delete hr hc hg, h.scene.trans ?_⟩
  clear h hc hg
  induction calls generalizing d with
  | nil => exact .refl d
  | cons c calls ih =>
    obtain ⟨hp, hl, hb⟩ := hs c List.mem_cons_self
    exact (d.sameScene_perform hp hl hb).trans (ih fun c' hc' => hs c' (List.mem_cons_of_mem _ hc'))

end Builds

/-- The shader comes from a text of a stage and was compiled. -/
structure Compiled (stage : Stage) (source : String) (s : Shader) : Prop where
  stage : s.stage = stage
  source : s.source = source
  compiled : s.compiled = true

/-- Making a shader adds it, compiled, or nothing. -/
theorem builds_makeShader {d e : Device} (hr : d.driver.objects.Regular) {stage : Stage}
    {source : String} {outcome : Except Failure ShaderId}
    (h : d.makeShader stage source = (outcome, e)) :
    match outcome with
    | .ok id => ∃ s, d.Builds e [(id.handle, .shader s)] ∧ Compiled stage source s
    | .error _ => d.Builds e [] := by
  obtain ⟨failure, ha, rfl⟩ | ⟨name, d₁, ha, hcases⟩ := makeShader_cases h
  · exact (Builds.refl d).refused hr ha
  have h₁ : d.Builds d₁ [((⟨name⟩ : ShaderId).handle, .shader ⟨stage, "", false, ""⟩)] :=
    (Builds.refl d).attempt hr ha
  obtain ⟨fail, hadds⟩ := h₁.adds.compile List.mem_cons_self source
  have h₂ : d.Builds (d₁.compile ⟨name⟩ source).2 _ :=
    ⟨hadds, h₁.scene.trans (d₁.sameScene_compile ⟨name⟩ source)⟩
  rw [Inventory.alter_cons_self] at h₂
  have hanswer : (d₁.compile ⟨name⟩ source).1 =
      (d₁.compile ⟨name⟩ source).2.driver.isCompiled ⟨name⟩ := rfl
  obtain ⟨hc, rfl⟩ | ⟨d₂, hc, rfl, rfl⟩ := hcases
  all_goals rw [hc] at h₂ hanswer
  · refine ⟨_, h₂, (Shader.fields_compile _ _ _).1, (Shader.fields_compile _ _ _).2, ?_⟩
    have hs : e.driver.objects.shaders.get? ⟨name⟩ = some _ :=
      h₂.adds.get?_of_mem (k := .shader) List.mem_cons_self
    rw [Driver.isCompiled, hs] at hanswer
    exact hanswer.symm
  · show d.Builds (d₂.performAll [.deleteShader ⟨name⟩]) []
    refine h₂.delete hr (show _ = [(⟨name⟩ : ShaderId).handle].map some from rfl) (.refl _) ?_
    simp [Call.paints, Call.setsPipeline, Call.setsFramebuffer]

/-- Linking a program to which two shaders of the inventory are attached. -/
theorem Builds.link {base d : Device} {id : ProgramId} {p : Program} {vertex fragment : ShaderId}
    {v f : Shader} (h : base.Builds d [(id.handle, .program p), (fragment.handle, .shader f),
      (vertex.handle, .shader v)]) (hp : p.shaders = [vertex, fragment])
    (hv : v.stage = .vertex) (hf : f.stage = .fragment) :
    ∃ fail, base.Builds (d.perform (.link id))
      [(id.handle, .program (p.link fail (some v) (some f))), (fragment.handle, .shader f),
        (vertex.handle, .shader v)] := by
  have hvertex : d.driver.objects.shaders.get? vertex = some v :=
    h.adds.get?_of_mem (k := .shader) (by simp [Kind.store])
  have hfragment : d.driver.objects.shaders.get? fragment = some f :=
    h.adds.get?_of_mem (k := .shader) (by simp [Kind.store])
  -- the program finds the shader of each stage among those attached
  have hv' : d.driver.attached? p .vertex = some v := by
    simp [Driver.attached?, hp, hvertex, hfragment, hv, hf]
  have hf' : d.driver.attached? p .fragment = some f := by
    simp [Driver.attached?, hp, hvertex, hfragment, hf]
  have hne (s : ShaderId) : s.handle ≠ id.handle := ObjectId.handle_ne _ _ (by decide)
  have hlinked := h.alter (d.driver.alters_link id) List.mem_cons_self rfl rfl rfl
  simp only [Inventory.alter_cons_self, Inventory.alter_cons_ne (hne _)] at hlinked
  refine ⟨d.driver.pretence.failLink, ?_⟩
  rw [← hv', ← hf']
  exact hlinked

/-- Linking two compiled shaders adds the program, or deletes them all. -/
theorem builds_linkShaders {base d e : Device} (hr : base.driver.objects.Regular)
    {vertex fragment : ShaderId} {v f : Shader} {vs fs : String}
    (h : base.Builds d [(fragment.handle, .shader f), (vertex.handle, .shader v)])
    (hv : Compiled .vertex vs v) (hf : Compiled .fragment fs f) {outcome : Except Failure ProgramId}
    (hl : d.linkShaders vertex fragment = (outcome, e)) :
    match outcome with
    | .ok id => ∃ p : Program, base.Builds e
        [(id.handle, .program p), (fragment.handle, .shader f), (vertex.handle, .shader v)] ∧
          p.LinkedFrom v f
    | .error _ => base.Builds e [] := by
  obtain ⟨failure, d₁, ha, rfl, rfl⟩ | ⟨name, d₁, ha, hcases⟩ := linkShaders_cases hl
  · refine (h.refused hr ha).delete hr (show _ = [vertex.handle, fragment.handle].map some from rfl)
      (.swap _ _ _) ?_
    simp [Call.paints, Call.setsPipeline, Call.setsFramebuffer]
  have hne (id : ShaderId) : id.handle ≠ (⟨name⟩ : ProgramId).handle :=
    ObjectId.handle_ne _ _ (by decide)
  have h₁ : base.Builds d₁ [((⟨name⟩ : ProgramId).handle, .program .fresh),
      (fragment.handle, .shader f), (vertex.handle, .shader v)] := h.attempt hr ha
  have h₂ := (h₁.alter (d₁.driver.alters_attachShader ⟨name⟩ vertex) List.mem_cons_self rfl rfl
    rfl).alter (Driver.alters_attachShader _ ⟨name⟩ fragment)
      (by rw [Inventory.handles_alter]; exact List.mem_cons_self) rfl rfl rfl
  simp only [Inventory.alter_cons_self, Inventory.alter_cons_ne (hne _)] at h₂
  rw [show d₁.performAll [.attachShader ⟨name⟩ vertex, .attachShader ⟨name⟩ fragment] =
    (d₁.perform (.attachShader ⟨name⟩ vertex)).perform (.attachShader ⟨name⟩ fragment) from rfl]
    at hcases
  generalize (d₁.perform (.attachShader ⟨name⟩ vertex)).perform
    (.attachShader ⟨name⟩ fragment) = d₂ at h₂ hcases
  obtain ⟨fail, h₃⟩ := h₂.link rfl hv.stage hf.stage
  have hanswer : (d₂.link ⟨name⟩).1 = (d₂.link ⟨name⟩).2.driver.isLinked ⟨name⟩ := rfl
  rw [show d₂.perform (.link ⟨name⟩) = (d₂.link ⟨name⟩).2 from rfl] at h₃
  obtain ⟨hc, rfl⟩ | ⟨d₃, hc, rfl, rfl⟩ := hcases
  all_goals rw [hc] at h₃ hanswer
  · refine ⟨_, h₃, Program.linkedFrom_link hv.compiled hf.compiled ?_⟩
    have hp : e.driver.objects.programs.get? ⟨name⟩ = some _ :=
      h₃.adds.get?_of_mem (k := .program) List.mem_cons_self
    rw [Driver.isLinked, hp] at hanswer
    exact hanswer.symm
  · refine h₃.delete hr (show _ = [(⟨name⟩ : ProgramId).handle, vertex.handle,
      fragment.handle].map some from rfl) (.cons _ (.swap _ _ _)) ?_
    simp [Call.paints, Call.setsPipeline, Call.setsFramebuffer]

end Device

/-! ## Programs for a purpose -/

namespace BuiltProgram

/-- The handles of the objects of the program, in the order in which they are deleted. -/
def handles (p : BuiltProgram) : List Handle :=
  [p.program.handle, p.vertex.handle, p.fragment.handle]

/-- The locations that drawing for the purpose needs are there. -/
def IsLocated (p : BuiltProgram) : Purpose → Prop
  | .textured _ => p.position = some 0 ∧ p.coordinate = some 1 ∧ p.sampler = some 0
  | .solid => p.position = some 0 ∧ p.color = some 0

/-- The program is linked, paints what the purpose says and has the locations. -/
structure Serves (p : BuiltProgram) (purpose : Purpose) (o : Objects) : Prop where
  located : p.IsLocated purpose
  linked : ∃ program, o.outline? p.program.handle = some (.program program) ∧
    program.linked = true ∧ program.paint = purpose.paint

theorem Serves.congr {p : BuiltProgram} {purpose : Purpose} {o o' : Objects}
    (h : p.Serves purpose o)
    (ho : o'.outline? p.program.handle = o.outline? p.program.handle) : p.Serves purpose o' :=
  ⟨h.located, by rw [ho]; exact h.linked⟩

theorem Serves.live {p : BuiltProgram} {purpose : Purpose} {o : Objects}
    (h : p.Serves purpose o) : o.Live p.program.handle := by
  obtain ⟨program, hp, -, -⟩ := h.linked
  rw [Objects.live_iff_outline?, hp]
  exact nofun

theorem serves_locate {purpose : Purpose} {d : Driver} {id : ProgramId} {p : Program}
    {vertex fragment : ShaderId} {v f : Shader} (hp : d.objects.programs.get? id = some p)
    (hl : p.LinkedFrom v f) (hv : v.source = purpose.vertexSource)
    (hf : f.source = purpose.fragmentSource) :
    (locate purpose id vertex fragment d).Serves purpose d.objects := by
  obtain ⟨hattributes, hnone⟩ := purpose.reads_vertexSource hv
  obtain ⟨huniform, hpaint⟩ := purpose.reads_fragmentSource hf
  rw [← hl.attributes] at hattributes
  have huniforms : p.uniforms = [purpose.uniform] := by
    rw [hl.uniforms, hnone, huniform]
    rfl
  constructor
  · cases purpose with
    | textured target =>
      simp only [locate, IsLocated, Driver.attribute?, Driver.uniform?, hp, Option.bind_some,
        Program.attribute?, Program.uniform?, hl.linked, if_true, hattributes, huniforms]
      cases target <;> decide
    | solid =>
      simp only [locate, IsLocated, Driver.attribute?, Driver.uniform?, hp, Option.bind_some,
        Program.attribute?, Program.uniform?, hl.linked, if_true, hattributes, huniforms]
      decide
  · refine ⟨{ p with values := [] }, ?_, hl.linked, hl.paint.trans hpaint⟩
    have hprogram : (locate purpose id vertex fragment d).program = id := by cases purpose <;> rfl
    rw [hprogram, Objects.outline?, Objects.stored?_program, hp]
    rfl

end BuiltProgram

/-- Building a program adds it with its shaders, or nothing. -/
theorem Device.builds_buildProgram {d e : Device} (hr : d.driver.objects.Regular)
    {purpose : Purpose} {outcome : Except Failure BuiltProgram}
    (h : d.buildProgram purpose = (outcome, e)) :
    match outcome with
    | .ok p => (∃ a, d.Builds e a ∧ a.handles.Perm p.handles) ∧ p.Serves purpose e.driver.objects
    | .error _ => d.Builds e [] := by
  obtain ⟨failure, hv, rfl⟩ | ⟨vertex, d₁, hv, hcases⟩ := buildProgram_cases h
  · exact builds_makeShader hr hv
  obtain ⟨v, h₁, hvc⟩ := builds_makeShader hr hv
  have hr₁ := h₁.adds.grows.regular hr
  obtain ⟨failure, d₂, hf, rfl, rfl⟩ | ⟨fragment, d₂, hf, linked, hl, rfl⟩ := hcases
  · -- the first shader is deleted again
    have h₂ := h₁.trans (builds_makeShader hr₁ hf) hr
    show d.Builds (d₂.performAll [.deleteShader vertex]) []
    refine h₂.delete hr (show _ = [vertex.handle].map some from rfl) (.refl _) ?_
    simp [Call.paints, Call.setsPipeline, Call.setsFramebuffer]
  obtain ⟨f, h₂, hfc⟩ := builds_makeShader hr₁ hf
  have h₂ := h₁.trans h₂ hr
  cases linked with
  | error failure => exact builds_linkShaders hr h₂ hvc hfc hl
  | ok id =>
    obtain ⟨p, h₃, hp⟩ := builds_linkShaders hr h₂ hvc hfc hl
    refine ⟨⟨_, h₃, ?_⟩, ?_⟩
    · cases purpose <;> exact .cons _ (.swap _ _ _)
    · have hget : e.driver.objects.programs.get? id = some p :=
        h₃.adds.get?_of_mem (k := .program) List.mem_cons_self
      exact BuiltProgram.serves_locate hget hp hvc.source hfc.source

end Compositor
