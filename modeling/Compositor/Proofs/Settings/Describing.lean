import Compositor.Proofs.Settings.Keys

/-!
# What a text says of settings

A text describes settings by an object that gives some of their fields, each once. Its members may
stand in any order and others, which hold any value whatsoever, may stand among them; what is read
is the settings with the given fields and the defaults of the others, if they meet the conditions.
-/

namespace Compositor.Settings

open Json

variable {given : List (Sigma keyed.Value)} {c : Settings}

end Compositor.Settings
