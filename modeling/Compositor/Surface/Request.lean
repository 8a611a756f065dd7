import Compositor.Failure
import Compositor.Json.Reader

/-!
# Requests to the windowing host

What a surface asks its host for, and a host that notes what it was asked.
-/

namespace Compositor

/-- What a surface asks for when its drawable is made. -/
structure DrawableRequest where
  /-- Whether the drawable is to have several samples. -/
  sampleBuffers : Bool
  samples : Nat
  depthBits : Nat
  stencilBits : Nat
  alphaBits : Nat
  backgroundOpaque : Bool
deriving DecidableEq, Repr

namespace DrawableRequest

/-- The request of a surface. The drawable has several samples only where no offscreen set does the
antialiasing. -/
def ofNeed (antialias : Nat) (drawsOffscreen : Bool) : DrawableRequest :=
  let multisample := 1 < antialias && !drawsOffscreen
  ⟨multisample, if multisample then antialias else 1, 24, 8, 8, true⟩

/-- A request of which some fields are read. -/
structure Draft where
  sampleBuffers : Option Bool
  samples : Option Nat
  depthBits : Option Nat
  stencilBits : Option Nat
  alphaBits : Option Nat
  backgroundOpaque : Option Bool

def form : Json.Form Draft DrawableRequest where
  name := "SurfaceRequest"
  fields :=
    [.of "sample_buffers" (·.sampleBuffers) (fun d v => { d with sampleBuffers := some v })
      Json.readBool,
     .of "samples" (·.samples) (fun d v => { d with samples := some v }) (Json.readNatural 32),
     .of "depth_bits" (·.depthBits) (fun d v => { d with depthBits := some v })
      (Json.readNatural 8),
     .of "stencil_bits" (·.stencilBits) (fun d v => { d with stencilBits := some v })
      (Json.readNatural 8),
     .of "alpha_bits" (·.alphaBits) (fun d v => { d with alphaBits := some v })
      (Json.readNatural 8),
     .of "background_opaque" (·.backgroundOpaque)
      (fun d v => { d with backgroundOpaque := some v }) Json.readBool]
  blank := ⟨none, none, none, none, none, none⟩
  mayEndEarly := false
  finish d := do
    return {
      sampleBuffers := ← Json.required "sample_buffers" d.sampleBuffers
      samples := ← Json.required "samples" d.samples
      depthBits := ← Json.required "depth_bits" d.depthBits
      stencilBits := ← Json.required "stencil_bits" d.stencilBits
      alphaBits := ← Json.required "alpha_bits" d.alphaBits
      backgroundOpaque := ← Json.required "background_opaque" d.backgroundOpaque }

/-- A request as JSON, its fields in the order of their declaration. -/
def toJson (r : DrawableRequest) : Json.Value :=
  .object
    [("sample_buffers", .bool r.sampleBuffers),
     ("samples", .ofNat r.samples),
     ("depth_bits", .ofNat r.depthBits),
     ("stencil_bits", .ofNat r.stencilBits),
     ("alpha_bits", .ofNat r.alphaBits),
     ("background_opaque", .bool r.backgroundOpaque)]

end DrawableRequest

/-- A host without a window, which notes what it is asked. -/
structure Host where
  /-- The requests that were granted, the latest first. -/
  requests : List DrawableRequest
  created : Nat
  recreated : Nat
  tornDown : Nat
  /-- With what the next request is refused, if it is. -/
  refusal : Option Failure
deriving DecidableEq, Repr

namespace Host

/-- A host that was asked nothing. -/
def idle : Host := ⟨[], 0, 0, 0, none⟩

instance : Inhabited Host where
  default := idle

/-- Grants a request for a drawable, or refuses it once; `again` tells whether there is one
already. -/
def provide (h : Host) (again : Bool) (request : DrawableRequest) : Except Failure Unit × Host :=
  match h.refusal with
  | some failure => (.error failure, { h with refusal := none })
  | none =>
    (.ok (),
      { h with
        requests := request :: h.requests
        created := if again then h.created else h.created + 1
        recreated := if again then h.recreated + 1 else h.recreated })

def tearDown (h : Host) : Host := { h with tornDown := h.tornDown + 1 }

end Host

end Compositor
