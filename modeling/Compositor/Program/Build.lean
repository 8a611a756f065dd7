import Compositor.Device
import Compositor.Program.Source

/-!
# Building programs

A program is built from the texts for its purpose: two shaders are compiled and linked. When a step
fails, the objects made so far are deleted.
-/

namespace Compositor

/-- A program that is linked, with the locations that drawing needs. -/
structure BuiltProgram where
  program : ProgramId
  vertex : ShaderId
  fragment : ShaderId
  position : Option Nat
  coordinate : Option Nat
  color : Option Nat
  sampler : Option Nat
deriving DecidableEq, Repr

namespace BuiltProgram

/-- The locations of a linked program that serves a purpose. -/
def locate (purpose : Purpose) (program : ProgramId) (vertex fragment : ShaderId) (d : Driver) :
    BuiltProgram :=
  let position := d.attribute? program Source.position
  match purpose with
  | .textured _ =>
    ⟨program, vertex, fragment, position, d.attribute? program Source.coordinate, none,
      d.uniform? program Source.sampler⟩
  | .solid =>
    ⟨program, vertex, fragment, position, none, d.uniform? program Source.color, none⟩

/-- Deletes the objects of the program. -/
def delete (p : BuiltProgram) (d : Device) : Device :=
  d.performAll [.deleteProgram p.program, .deleteShader p.vertex, .deleteShader p.fragment]

end BuiltProgram

namespace Device

/-- Makes a shader and compiles a text as it. -/
def makeShader (d : Device) (stage : Stage) (source : String) : Except Failure ShaderId × Device :=
  match d.attempt (.shader stage) with
  | (.error failure, d) => (.error failure, d)
  | (.ok name, d) =>
    let shader : ShaderId := ⟨name⟩
    match d.compile shader source with
    | (true, d) => (.ok shader, d)
    | (false, d) =>
      (.error (.shaderCompile stage (d.driver.shaderLog shader)), d.perform (.deleteShader shader))

/-- Makes a program from two shaders, which are deleted if that fails. -/
def linkShaders (d : Device) (vertex fragment : ShaderId) : Except Failure ProgramId × Device :=
  match d.attempt .program with
  | (.error failure, d) =>
    (.error failure, d.performAll [.deleteShader vertex, .deleteShader fragment])
  | (.ok name, d) =>
    let program : ProgramId := ⟨name⟩
    match (d.performAll [.attachShader program vertex, .attachShader program fragment]).link program
    with
    | (true, d) => (.ok program, d)
    | (false, d) =>
      (.error (.shaderLink (d.driver.programLog program)),
        d.performAll [.deleteProgram program, .deleteShader vertex, .deleteShader fragment])

/-- Builds the program for a purpose. -/
def buildProgram (d : Device) (purpose : Purpose) : Except Failure BuiltProgram × Device :=
  match d.makeShader .vertex purpose.vertexSource with
  | (.error failure, d) => (.error failure, d)
  | (.ok vertex, d) =>
    match d.makeShader .fragment purpose.fragmentSource with
    | (.error failure, d) => (.error failure, d.perform (.deleteShader vertex))
    | (.ok fragment, d) =>
      match d.linkShaders vertex fragment with
      | (.error failure, d) => (.error failure, d)
      | (.ok program, d) => (.ok (.locate purpose program vertex fragment d.driver), d)

end Device

end Compositor
