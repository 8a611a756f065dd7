import Compositor.Text.Blank
import Compositor.Text.Numeral

/-!
# Platforms

The operating system that a surface runs on, with the version number read from its dotted text.
-/

namespace Compositor

/-- The operating system of the host. -/
structure Platform where
  osName : String
  /-- The version as a dotted text, empty when unknown. -/
  osVersion : String
deriving DecidableEq, Repr, Inhabited

namespace Platform

/-- The system this library is built for, its version unknown. -/
def current : Platform := ⟨"linux", ""⟩

/-- Whether the name is one of those that macOS goes by; the case of ASCII letters does not
matter. -/
def isMacOS (p : Platform) : Bool :=
  let name := p.osName.toList.map Char.toLower
  name == "macos".toList || "mac os".toList.isPrefixOf name

/-- The major and minor number at the start of the version; without a second part the minor number
is zero. White space around a part is ignored, and further parts are not looked at. -/
def version? (p : Platform) : Option (Nat × Nat) :=
  match Text.splitAt (· == '.') p.osVersion.toList with
  | [] => none
  | [major] => (Text.word? (Text.trim major)).map (·, 0)
  | major :: minor :: _ => do
    return (← Text.word? (Text.trim major), ← Text.word? (Text.trim minor))

end Platform

end Compositor
