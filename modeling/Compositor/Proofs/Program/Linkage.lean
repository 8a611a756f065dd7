import Compositor.Proofs.Device.Incident
import Compositor.Proofs.Program.Building

/-!
# What keeps a program linked

What linking gave a program stays until the program is linked again or deleted, or until the context
is lost. Neither the shaders that are attached to it nor the values of its uniforms matter, and the
shaders that it was linked from may be compiled again or deleted.
-/

namespace Compositor

/-- Both programs got the same from being linked. -/
structure Program.SameLinkage (p q : Program) : Prop where
  linked : q.linked = p.linked
  paint : q.paint = p.paint
  attributes : q.attributes = p.attributes
  uniforms : q.uniforms = p.uniforms

namespace Program.SameLinkage

variable {p q : Program}

theorem of_outline (h : (Stored.program q).outline = (Stored.program p).outline) :
    p.SameLinkage q := by
  simp only [Stored.outline, Stored.program.injEq, Program.mk.injEq] at h
  obtain ⟨-, hlinked, hpaint, -, hattributes, huniforms, -⟩ := h
  exact ⟨hlinked, hpaint, hattributes, huniforms⟩

theorem attribute? (h : p.SameLinkage q) (name : String) :
    q.attribute? name = p.attribute? name := by
  rw [Program.attribute?, Program.attribute?, h.linked, h.attributes]

theorem uniform? (h : p.SameLinkage q) (name : String) : q.uniform? name = p.uniform? name := by
  rw [Program.uniform?, Program.uniform?, h.linked, h.uniforms]

end Program.SameLinkage

theorem Objects.live_program {o : Objects} {id : ProgramId} {p : Program}
    (h : o.programs.get? id = some p) : o.Live id.handle := by
  rw [Live, stored?_program, h]
  exact Option.some_ne_none _

namespace Driver

/-- If the program is there in `d`, it is there in `e`, with what linking gave it. -/
def KeepsLinkage (d e : Driver) (id : ProgramId) : Prop :=
  ∀ p, d.objects.programs.get? id = some p →
    ∃ q, e.objects.programs.get? id = some q ∧ p.SameLinkage q

variable {d e : Driver} {id : ProgramId}

theorem keepsLinkage_of_outline
    (h : e.objects.outline? id.handle = d.objects.outline? id.handle) : d.KeepsLinkage e id := by
  intro p hp
  rw [Objects.outline?, Objects.outline?, Objects.stored?_program, Objects.stored?_program, hp,
    Option.map_some, Option.map_some, Option.map_eq_some_iff] at h
  obtain ⟨stored, hstored, houtline⟩ := h
  obtain ⟨q, hq, rfl⟩ := Option.map_eq_some_iff.mp hstored
  exact ⟨q, hq, .of_outline houtline⟩

/-- The calls whose target is a program. -/
theorem call_of_target? {c : Call} (h : d.target? c = some id.handle) :
    (∃ what, c = .create what) ∨ (∃ shader, c = .attachShader id shader) ∨ c = .link id ∨
      c = .deleteProgram id := by
  cases c with
  | create what => exact Or.inl ⟨what, rfl⟩
  | attachShader program shader =>
    rw [ObjectId.handle_inj.mp (Option.some.inj h)]
    exact Or.inr (Or.inl ⟨shader, rfl⟩)
  | link program =>
    rw [ObjectId.handle_inj.mp (Option.some.inj h)]
    exact Or.inr (Or.inr (Or.inl rfl))
  | deleteProgram program =>
    rw [ObjectId.handle_inj.mp (Option.some.inj h)]
    exact Or.inr (Or.inr (Or.inr rfl))
  | _ => simp [target?, ObjectId.handle] at h

/-- The only calls that change what linking gave a program link it again or delete it. -/
theorem keepsLinkage_perform (hr : d.objects.Regular) {c : Call} (hl : c ≠ .link id)
    (hd : c ≠ .deleteProgram id) : d.KeepsLinkage (d.perform c) id := by
  by_cases ht : d.target? c = some id.handle
  · intro p hp
    rcases call_of_target? ht with ⟨what, rfl⟩ | ⟨shader, rfl⟩ | h | h
    · -- the new object has a later name
      have hname : d.objects.issued + 1 = id.name := congrArg Handle.name (Option.some.inj ht)
      have hle : id.name ≤ d.objects.issued := hr.name_le _ (Objects.live_program hp)
      omega
    · refine ⟨{ p with shaders := p.shaders ++ [shader] }, ?_, rfl, rfl, rfl, rfl⟩
      show (d.objects.programs.modify id _).get? id = _
      rw [Table.get?_modify, if_pos rfl, hp]
      rfl
    · exact absurd h hl
    · exact absurd h hd
  · exact keepsLinkage_of_outline (outline?_perform ht)

end Driver

/-- Nor do incidents change it that are neither of these calls nor the loss of the context. -/
theorem Device.keepsLinkage_undergo {d : Device} (hr : d.driver.objects.Regular) {i : Incident}
    (hloss : i.isLoss = false) {id : ProgramId} (hl : i ≠ .call (.link id))
    (hd : i ≠ .call (.deleteProgram id)) : d.driver.KeepsLinkage (d.undergo i).driver id := by
  have refl : d.driver.KeepsLinkage d.driver id := Driver.keepsLinkage_of_outline rfl
  cases i with
  | call c =>
    exact Driver.keepsLinkage_perform hr (fun h => hl (congrArg _ h)) (fun h => hd (congrArg _ h))
  | attempt what =>
    intro p hp
    have hlive : d.Live id.handle := Objects.live_program hp
    exact Driver.keepsLinkage_of_outline (outline_attempt hr what hlive) p hp
  | compile shader source =>
    exact Driver.keepsLinkage_of_outline
      (d.outline_compile source (ObjectId.handle_ne _ _ (by decide)))
  | loseContext => cases hloss
  | _ => exact refl

/-! ## Programs that can be used -/

/-- The program is there and linked, it paints what the purpose says, and the locations are those
that drawing for the purpose needs and that the driver gives. -/
structure BuiltProgram.IsUsable (b : BuiltProgram) (purpose : Purpose) (d : Driver) : Prop where
  program : ∃ p, d.objects.programs.get? b.program = some p ∧ p.linked = true ∧
    p.paint = purpose.paint
  located : b.IsLocated purpose
  locate : BuiltProgram.locate purpose b.program b.vertex b.fragment d = b

namespace BuiltProgram.IsUsable

variable {b : BuiltProgram} {purpose : Purpose} {d e : Driver}

theorem keep (h : b.IsUsable purpose d) (hk : d.KeepsLinkage e b.program) :
    b.IsUsable purpose e := by
  obtain ⟨p, hp, hlinked, hpaint⟩ := h.program
  obtain ⟨q, hq, hsame⟩ := hk p hp
  have hattribute (name : String) : e.attribute? b.program name = d.attribute? b.program name := by
    rw [Driver.attribute?, Driver.attribute?, hp, hq, Option.bind_some, Option.bind_some,
      hsame.attribute?]
  have huniform (name : String) : e.uniform? b.program name = d.uniform? b.program name := by
    rw [Driver.uniform?, Driver.uniform?, hp, hq, Option.bind_some, Option.bind_some,
      hsame.uniform?]
  refine ⟨⟨q, hq, hsame.linked.trans hlinked, hsame.paint.trans hpaint⟩, h.located, ?_⟩
  calc BuiltProgram.locate purpose b.program b.vertex b.fragment e
      = BuiltProgram.locate purpose b.program b.vertex b.fragment d := by
        simp only [BuiltProgram.locate, hattribute, huniform]
    _ = b := h.locate

theorem live (h : b.IsUsable purpose d) : d.objects.Live b.program.handle := by
  obtain ⟨p, hp, -, -⟩ := h.program
  exact Objects.live_program hp

/-- A program that was just built can be used. -/
theorem of_buildProgram {d e : Device} (hr : d.driver.objects.Regular)
    (h : d.buildProgram purpose = (.ok b, e)) : b.IsUsable purpose e.driver := by
  obtain ⟨-, hlocated, program, houtline, hlinked, hpaint⟩ := Device.builds_buildProgram hr h
  rw [Objects.outline?, Objects.stored?_program, Option.map_map,
    Option.map_eq_some_iff] at houtline
  obtain ⟨p, hp, he⟩ := houtline
  cases he
  refine ⟨⟨p, hp, hlinked, hpaint⟩, hlocated, ?_⟩
  -- the locations were asked for last
  unfold Device.buildProgram at h
  split at h
  · cases h
  split at h
  · cases h
  split at h <;> cases h
  cases purpose <;> rfl

end BuiltProgram.IsUsable

end Compositor
