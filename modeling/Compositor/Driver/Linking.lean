import Compositor.Driver.Basic
import Compositor.Text.Blank

/-!
# Compiling and linking

How the driver treats the text of a shader. It compiles if it mentions an entry point. A program
links if it has a compiled shader for each stage; what it paints with and the names of its
attributes and uniforms are read off the texts.
-/

namespace Compositor

namespace Shader

/-- Whether the source contains a text. -/
def mentions (s : Shader) (part : String) : Bool := Text.occursIn part.toList s.source.toList

/-- The shader after its source was replaced and compiled. -/
def compile (s : Shader) (fail : Bool) (source : String) : Shader :=
  let s := { s with source := source }
  if fail then
    { s with compiled := false, log := "0:1(1): error: compilation rejected by driver" }
  else if s.mentions "main" then { s with compiled := true, log := "" }
  else { s with compiled := false, log := "0:1(1): error: no entry point `main`" }

/-- The name that a statement declares: its last word, if it starts with the keyword and a blank. -/
def declared? (keyword : List Char) (statement : List Char) : Option String :=
  let statement := Text.trim statement
  let rest := statement.drop keyword.length
  if keyword.isPrefixOf statement ∧ (rest.head?.any Text.isBlank) then
    (Text.words rest).getLast?.map String.ofList
  else none

/-- The names declared under a keyword; statements end with a semicolon or with the line. -/
def declarations (s : Shader) (keyword : String) : List String :=
  (Text.splitAt (fun c => c == ';' || c == '\n') s.source.toList).filterMap
    (declared? keyword.toList)

/-- What a fragment shader paints with. -/
def paint (s : Shader) : Paint :=
  if s.mentions "sampler2DRect" then .textured .rectangle
  else if s.mentions "sampler2D" then .textured .texture2d
  else if s.mentions "uniform vec4" then .solid
  else .nothing

end Shader

namespace Program

/-- The program after linking failed. -/
def unlinked (p : Program) (log : String) : Program :=
  { p with linked := false, log := log, paint := .nothing, attributes := [], uniforms := [] }

/-- The program after linking with the shaders of its two stages, where it has them. -/
def link (p : Program) (fail : Bool) (vertex fragment : Option Shader) : Program :=
  if fail then p.unlinked "error: linking rejected by driver"
  else
    match vertex.filter (·.compiled), fragment.filter (·.compiled) with
    | some v, some f =>
      { p with
        linked := true
        log := ""
        paint := f.paint
        attributes := v.declarations "attribute"
        uniforms := v.declarations "uniform" ++ f.declarations "uniform" }
    | _, _ =>
      p.unlinked "error: program needs one compiled vertex and one compiled fragment shader"

/-- The location of an attribute of a linked program. -/
def attribute? (p : Program) (name : String) : Option Nat :=
  if p.linked then p.attributes.findIdx? (· == name) else none

/-- The location of a uniform of a linked program. -/
def uniform? (p : Program) (name : String) : Option Nat :=
  if p.linked then p.uniforms.findIdx? (· == name) else none

/-- Gives a value to a uniform location. -/
def setUniform (p : Program) (location : Nat) (value : Rgba) : Program :=
  { p with values := (location, value) :: p.values.filter (·.1 ≠ location) }

end Program

namespace Driver

/-- The last live shader of a stage among those attached to a program. -/
def attached? (d : Driver) (p : Program) (stage : Stage) : Option Shader :=
  (p.shaders.filterMap d.objects.shaders.get?).findRev? (·.stage = stage)

def attribute? (d : Driver) (id : ProgramId) (name : String) : Option Nat :=
  (d.objects.programs.get? id).bind (·.attribute? name)

def uniform? (d : Driver) (id : ProgramId) (name : String) : Option Nat :=
  (d.objects.programs.get? id).bind (·.uniform? name)

def isCompiled (d : Driver) (id : ShaderId) : Bool := (d.objects.shaders.get? id).any (·.compiled)

def isLinked (d : Driver) (id : ProgramId) : Bool := (d.objects.programs.get? id).any (·.linked)

/-- What the compiler had to say about a shader. -/
def shaderLog (d : Driver) (id : ShaderId) : String :=
  ((d.objects.shaders.get? id).map (·.log)).getD ""

/-- What the linker had to say about a program. -/
def programLog (d : Driver) (id : ProgramId) : String :=
  ((d.objects.programs.get? id).map (·.log)).getD ""

end Driver

end Compositor
