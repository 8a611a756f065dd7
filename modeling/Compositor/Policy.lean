import Compositor.Capabilities
import Compositor.Platform

/-!
# Offscreen policies

A policy decides whether a surface is drawn into an offscreen buffer set first, or straight to the
display.
-/

namespace Compositor

/-- Decides on offscreen drawing from the platform, the effective sample count and the
capabilities. -/
abbrev Policy := Platform → Nat → Capabilities → Bool

namespace Policy

def always : Policy := fun _ _ _ => true

def never : Policy := fun _ _ _ => false

/-- Draws offscreen where the display of a Mac goes wrong: on macOS from version 10.`minMinor` on,
with at least `minSamples` samples. -/
def macWorkaround (minMinor minSamples : Nat) : Policy := fun platform samples _ =>
  platform.isMacOS && minSamples ≤ samples &&
    match platform.version? with
    | some (major, minor) => 10 < major || (major = 10 && minMinor ≤ minor)
    | none => false

/-- The lowest minor version of `macWorkaround` where nothing else is said. -/
def standardMinMinor : Nat := 6

/-- The lowest sample count of `macWorkaround` where nothing else is said. -/
def standardMinSamples : Nat := 1

/-- The decision for a surface that asks for an antialiasing quality. -/
def decide (p : Policy) (platform : Platform) (antialias : Nat) (caps : Capabilities) : Bool :=
  p platform (effectiveSamples antialias) caps

end Policy

end Compositor
