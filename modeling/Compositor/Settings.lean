import Compositor.Failure
import Compositor.FrameRate
import Compositor.Json.Reader
import Compositor.Policy

/-!
# Surface settings

The settings of a surface, the conditions on them, and their JSON form. Every setting has a default,
so the empty object gives settings too.
-/

namespace Compositor

open Numeric

/-- How a surface chooses between the display and an offscreen buffer set. -/
inductive OffscreenChoice where
  /-- By the workaround for the platform. -/
  | auto
  | always
  | never
deriving DecidableEq, Repr, Inhabited

def OffscreenChoice.word : OffscreenChoice → String
  | auto => "auto"
  | always => "always"
  | never => "never"

def OffscreenChoice.variants : Json.Variants OffscreenChoice :=
  [auto, always, never].map fun choice => (choice.word, choice)

/-- How often a frame scheduler looks for requests and how long it waits when it stops, in
microseconds. -/
structure Timing where
  pollInterval : Nat
  stopGrace : Nat
deriving DecidableEq, Repr

structure Settings where
  /-- The antialiasing quality; the effective sample count follows from it. -/
  antialias : UInt32
  frameRate : Single
  offscreen : OffscreenChoice
  platform : Platform
  /-- The lowest sample count for which the platform workaround draws offscreen. -/
  minOffscreenSamples : UInt32
  /-- The lowest minor version that the platform workaround applies to. -/
  minPlatformMinorVersion : UInt32
  /-- The poll interval of the frame scheduler in milliseconds. -/
  pollIntervalMs : UInt64
  /-- How long the frame scheduler waits when it stops, in milliseconds. -/
  stopGraceMs : UInt64
deriving DecidableEq, Repr

namespace Settings

/-- The settings where nothing is said. -/
def standard : Settings where
  antialias := 2
  frameRate := Binary.ofNat 60
  offscreen := .auto
  platform := Platform.current
  minOffscreenSamples := .ofNat Policy.standardMinSamples
  minPlatformMinorVersion := .ofNat Policy.standardMinMinor
  pollIntervalMs := 1
  stopGraceMs := 20

instance : Inhabited Settings where
  default := standard

/-- Checks the conditions on the settings. -/
def validate (c : Settings) : Except Failure Unit :=
  if !FrameRate.isValid c.frameRate then
    .error (.config
      ("frame_rate must be a positive number, got " ++ DecimalStyle.plain.render c.frameRate))
  else if c.pollIntervalMs = 0 then .error (.config "poll_interval_ms must be > 0")
  else .ok ()

theorem isValid_of_validate {c : Settings} (h : c.validate = .ok ()) :
    FrameRate.isValid c.frameRate = true := by
  unfold validate at h
  split at h
  · cases h
  · rename_i hv
    simpa using hv

/-- The policy that the settings ask for. -/
def policy (c : Settings) : Policy :=
  match c.offscreen with
  | .auto => Policy.macWorkaround c.minPlatformMinorVersion.toNat c.minOffscreenSamples.toNat
  | .always => Policy.always
  | .never => Policy.never

/-- The effective sample count. -/
def samples (c : Settings) : Nat := effectiveSamples c.antialias.toNat

/-- The timing of the frame scheduler. -/
def timing (c : Settings) : Timing :=
  ⟨1000 * c.pollIntervalMs.toNat, 1000 * c.stopGraceMs.toNat⟩

end Settings

/-! ## Reading and writing -/

/-- A platform of which some fields are read. -/
structure Platform.Draft where
  osName : Option String
  osVersion : Option String

def Platform.form : Json.Form Platform.Draft Platform where
  name := "PlatformInfo"
  fields :=
    [.of "os_name" (·.osName) (fun d v => { d with osName := some v }) Json.readString,
     .of "os_version" (·.osVersion) (fun d v => { d with osVersion := some v }) Json.readString]
  blank := ⟨none, none⟩
  mayEndEarly := false
  finish d := do
    return ⟨← Json.required "os_name" d.osName, ← Json.required "os_version" d.osVersion⟩

def Platform.toJson (p : Platform) : Json.Value :=
  .object [("os_name", .text p.osName), ("os_version", .text p.osVersion)]

namespace Settings

/-- Settings of which some fields are read. -/
structure Draft where
  antialias : Option UInt32
  frameRate : Option Single
  offscreen : Option OffscreenChoice
  platform : Option Platform
  minOffscreenSamples : Option UInt32
  minPlatformMinorVersion : Option UInt32
  pollIntervalMs : Option UInt64
  stopGraceMs : Option UInt64

namespace Draft

def blank : Draft := ⟨none, none, none, none, none, none, none, none⟩

/-- The settings with the fields that were read, the others at their defaults. -/
def complete (d : Draft) : Settings where
  antialias := d.antialias.getD standard.antialias
  frameRate := d.frameRate.getD standard.frameRate
  offscreen := d.offscreen.getD standard.offscreen
  platform := d.platform.getD standard.platform
  minOffscreenSamples := d.minOffscreenSamples.getD standard.minOffscreenSamples
  minPlatformMinorVersion := d.minPlatformMinorVersion.getD standard.minPlatformMinorVersion
  pollIntervalMs := d.pollIntervalMs.getD standard.pollIntervalMs
  stopGraceMs := d.stopGraceMs.getD standard.stopGraceMs

end Draft

/-- Reads a natural number of 32 bits. -/
def readWord : Json.Reader UInt32 := fun s =>
  (Json.readNatural 32 s).map fun r => (UInt32.ofNat r.1, r.2)

/-- Reads a natural number of 64 bits. -/
def readLongWord : Json.Reader UInt64 := fun s =>
  (Json.readNatural 64 s).map fun r => (UInt64.ofNat r.1, r.2)

def form : Json.Form Draft Settings where
  name := "SurfaceConfig"
  fields :=
    [.of "antialias" (·.antialias) (fun d v => { d with antialias := some v }) readWord,
     .of "frame_rate" (·.frameRate) (fun d v => { d with frameRate := some v }) Json.readSingle,
     .of "offscreen" (·.offscreen) (fun d v => { d with offscreen := some v })
      (Json.readVariant OffscreenChoice.variants),
     .of "platform" (·.platform) (fun d v => { d with platform := some v }) Platform.form.read,
     .of "min_offscreen_samples" (·.minOffscreenSamples)
      (fun d v => { d with minOffscreenSamples := some v }) readWord,
     .of "min_platform_minor_version" (·.minPlatformMinorVersion)
      (fun d v => { d with minPlatformMinorVersion := some v }) readWord,
     .of "poll_interval_ms" (·.pollIntervalMs) (fun d v => { d with pollIntervalMs := some v })
      readLongWord,
     .of "stop_grace_ms" (·.stopGraceMs) (fun d v => { d with stopGraceMs := some v })
      readLongWord]
  blank := .blank
  mayEndEarly := true
  finish d := .ok d.complete

/-- Settings as JSON, the fields in the order of their declaration. -/
def toJson (c : Settings) : Json.Value :=
  .object
    [("antialias", .ofNat c.antialias.toNat),
     ("frame_rate", .ofSingle c.frameRate),
     ("offscreen", .text c.offscreen.word),
     ("platform", c.platform.toJson),
     ("min_offscreen_samples", .ofNat c.minOffscreenSamples.toNat),
     ("min_platform_minor_version", .ofNat c.minPlatformMinorVersion.toNat),
     ("poll_interval_ms", .ofNat c.pollIntervalMs.toNat),
     ("stop_grace_ms", .ofNat c.stopGraceMs.toNat)]

def render (c : Settings) : String := String.ofList c.toJson.compact

/-- The settings that a text describes, if they meet the conditions. -/
def ofText? (text : String) : Except Failure Settings :=
  match Json.readAll form.read text with
  | .error fault => .error (.config fault.message)
  | .ok c => c.validate.map fun _ => c

theorem validate_of_ofText? {text : String} {settings : Settings}
    (h : ofText? text = .ok settings) : settings.validate = .ok () := by
  unfold ofText? at h
  split at h
  · cases h
  · rename_i c hc
    cases hv : c.validate with
    | error failure =>
      rw [hv] at h
      cases h
    | ok =>
      rw [hv] at h
      cases h
      exact hv

end Settings

end Compositor
