import Compositor.Color
import Compositor.Geometry
import Compositor.Json.Reader

/-!
# JSON forms of sizes and colours
-/

namespace Compositor

open Numeric

/-- A size of which some fields are read. -/
structure Size.Draft where
  width : Option Nat
  height : Option Nat

def Size.form : Json.Form Size.Draft Size where
  name := "SurfaceSize"
  fields :=
    [.of "width" (·.width) (fun d v => { d with width := some v }) (Json.readNatural 32),
     .of "height" (·.height) (fun d v => { d with height := some v }) (Json.readNatural 32)]
  blank := ⟨none, none⟩
  mayEndEarly := false
  finish d := do
    return ⟨← Json.required "width" d.width, ← Json.required "height" d.height⟩

def Size.toJson (s : Size) : Json.Value :=
  .object [("width", .ofNat s.width), ("height", .ofNat s.height)]

def Rgba.form : Json.Form (Channels (Option Single)) Rgba where
  name := "Rgba"
  fields :=
    [.of "r" (·.r) (fun d v => { d with r := some v }) Json.readSingle,
     .of "g" (·.g) (fun d v => { d with g := some v }) Json.readSingle,
     .of "b" (·.b) (fun d v => { d with b := some v }) Json.readSingle,
     .of "a" (·.a) (fun d v => { d with a := some v }) Json.readSingle]
  blank := Channels.all none
  mayEndEarly := false
  finish d := do
    return ⟨← Json.required "r" d.r, ← Json.required "g" d.g, ← Json.required "b" d.b,
      ← Json.required "a" d.a⟩

end Compositor
