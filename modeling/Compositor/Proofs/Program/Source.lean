import Compositor.Program.Source

/-!
# What the shader texts say

What a driver reads off the texts for a purpose: what the program paints with, and the names of its
attributes and its uniform.
-/

namespace Compositor

namespace Source

theorem toList_lines (l : List String) :
    (lines l).toList = l.flatMap fun s => s.toList ++ ['\n'] := by
  have hflatten (m : List (List Char)) : [].intercalate m = m.flatten := by
    induction m with
    | nil => rfl
    | cons a m ih =>
      cases m with
      | nil => simp [List.intercalate]
      | cons b m => simpa [List.intercalate] using ih
  rw [lines, String.toList_intercalate, String.toList_empty, hflatten, List.map_map]
  simp [List.flatMap, Function.comp_def]

end Source

namespace Shader

-- Each text is taken apart into its lines before it is searched: evaluating `String.toList` on a
-- whole text is slow.

theorem reads_texturedVertex {s : Shader} (h : s.source = Source.texturedVertex) :
    s.declarations "attribute" = [Source.position, Source.coordinate] ∧
      s.declarations "uniform" = [] := by
  unfold declarations
  rw [h]
  unfold Source.texturedVertex
  rw [Source.toList_lines]
  decide +kernel

theorem reads_solidVertex {s : Shader} (h : s.source = Source.solidVertex) :
    s.declarations "attribute" = [Source.position] ∧ s.declarations "uniform" = [] := by
  unfold declarations
  rw [h]
  unfold Source.solidVertex
  rw [Source.toList_lines]
  decide +kernel

theorem reads_texture2dFragment {s : Shader}
    (h : s.source = Source.texturedFragment "sampler2D" "texture2D") :
    s.declarations "uniform" = [Source.sampler] ∧ s.paint = .textured .texture2d := by
  unfold declarations paint mentions
  rw [h]
  unfold Source.texturedFragment
  rw [Source.toList_lines]
  decide +kernel

theorem reads_rectangleFragment {s : Shader}
    (h : s.source = Source.texturedFragment "sampler2DRect" "texture2DRect") :
    s.declarations "uniform" = [Source.sampler] ∧ s.paint = .textured .rectangle := by
  unfold declarations paint mentions
  rw [h]
  unfold Source.texturedFragment
  rw [Source.toList_lines]
  decide +kernel

theorem reads_solidFragment {s : Shader} (h : s.source = Source.solidFragment) :
    s.declarations "uniform" = [Source.color] ∧ s.paint = .solid := by
  unfold declarations paint mentions
  rw [h]
  unfold Source.solidFragment
  rw [Source.toList_lines]
  decide +kernel

end Shader

namespace Purpose

/-- The names that the vertex shader declares as attributes. -/
def attributes : Purpose → List String
  | textured _ => [Source.position, Source.coordinate]
  | solid => [Source.position]

/-- The name that the fragment shader declares as a uniform. -/
def uniform : Purpose → String
  | textured _ => Source.sampler
  | solid => Source.color

theorem reads_vertexSource (purpose : Purpose) {s : Shader} (h : s.source = purpose.vertexSource) :
    s.declarations "attribute" = purpose.attributes ∧ s.declarations "uniform" = [] := by
  cases purpose with
  | textured target => exact Shader.reads_texturedVertex h
  | solid => exact Shader.reads_solidVertex h

theorem reads_fragmentSource (purpose : Purpose) {s : Shader}
    (h : s.source = purpose.fragmentSource) :
    s.declarations "uniform" = [purpose.uniform] ∧ s.paint = purpose.paint := by
  rcases purpose with (_ | _) | _
  · exact Shader.reads_texture2dFragment h
  · exact Shader.reads_rectangleFragment h
  · exact Shader.reads_solidFragment h

end Purpose

end Compositor
