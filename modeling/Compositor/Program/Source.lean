import Compositor.Driver.Linking

/-!
# Shader texts

What a program is for, and the texts of the shaders that it is linked from. Fragment shaders open
with the precision statements that embedded drivers require; other drivers skip them.
-/

namespace Compositor

/-- What a program is for. -/
inductive Purpose where
  /-- Drawing a texture of the target. -/
  | textured (target : TextureTarget)
  /-- Filling with one colour. -/
  | solid
deriving DecidableEq, Repr

namespace Purpose

def all : List Purpose := [textured .texture2d, textured .rectangle, solid]

theorem mem_all (p : Purpose) : p ∈ all := by
  rcases p with (_ | _) | _ <;> decide

/-- What a program for the purpose paints with. -/
def paint : Purpose → Paint
  | textured target => .textured target
  | solid => .solid

end Purpose

namespace Source

/-- The name of the attribute for positions. -/
def position : String := "inVertex"

/-- The name of the attribute for texture coordinates. -/
def coordinate : String := "inTexcoord"

/-- The name of the uniform for the texture. -/
def sampler : String := "textureSampler"

/-- The name of the uniform for the colour. -/
def color : String := "rectColor"

def lines (l : List String) : String := "".intercalate (l.map (· ++ "\n"))

/-- An entry point with the given statements. -/
def entryPoint (statements : List String) : List String :=
  ["void main() \x7b"] ++ statements ++ ["\x7d"]

/-- The statement that sets the position of a vertex. -/
def place : String := "gl_Position = vec4(" ++ position ++ ", 0, 1);"

def texturedVertex : String :=
  lines
    (["attribute vec2 " ++ position ++ ";", "attribute vec2 " ++ coordinate ++ ";",
        "varying vec2 vertTexcoord;"] ++
      entryPoint [place, "vertTexcoord = " ++ coordinate ++ ";"])

/-- The vertex shader for one colour. -/
def solidVertex : String := lines (["attribute vec2 " ++ position ++ ";"] ++ entryPoint [place])

/-- The precision statements of a fragment shader. -/
def precision : List String :=
  ["#ifdef GL_ES", "precision mediump float;", "precision mediump int;", "#endif"]

/-- The fragment shader that looks a texture up, given the type of the texture and the function for
it. -/
def texturedFragment (type lookup : String) : String :=
  lines
    (precision ++ ["uniform " ++ type ++ " " ++ sampler ++ ";", "varying vec2 vertTexcoord;"] ++
      entryPoint ["gl_FragColor = " ++ lookup ++ "(" ++ sampler ++ ", vertTexcoord.st);"])

/-- The fragment shader for one colour. -/
def solidFragment : String :=
  lines
    (precision ++ ["uniform vec4 " ++ color ++ ";"] ++
      entryPoint ["gl_FragColor = " ++ color ++ ";"])

end Source

/-- The text of the vertex shader for a purpose. -/
def Purpose.vertexSource : Purpose → String
  | textured _ => Source.texturedVertex
  | solid => Source.solidVertex

/-- The text of the fragment shader for a purpose. -/
def Purpose.fragmentSource : Purpose → String
  | textured .texture2d => Source.texturedFragment "sampler2D" "texture2D"
  | textured .rectangle => Source.texturedFragment "sampler2DRect" "texture2DRect"
  | solid => Source.solidFragment

end Compositor
