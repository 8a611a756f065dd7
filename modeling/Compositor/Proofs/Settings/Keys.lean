import Compositor.Proofs.Json.Keyed
import Compositor.Settings

/-!
# The fields of settings

The fields of a platform and of settings told apart by keys, with the texts that give each of them:
a number by its numeral, a text or the name of a variant spelled in any way between its quotes, a
platform by an object of its own. The numeral of a frame rate is whatever is read as the number, for
the digits are read through double precision.
-/

namespace Compositor

open Json Numeric

/-! ## Platforms -/

namespace Platform

inductive Key where
  | osName
  | osVersion
deriving DecidableEq

def Key.name : Key → String
  | osName => "os_name"
  | osVersion => "os_version"

def Draft.get (d : Draft) : Key → Option String
  | .osName => d.osName
  | .osVersion => d.osVersion

def Draft.set (d : Draft) : Key → String → Draft
  | .osName, v => { d with osName := some v }
  | .osVersion, v => { d with osVersion := some v }

/-- The fields of a platform are texts. -/
def keyed : form.Keyed Key where
  Value _ := String
  name := Key.name
  get := Draft.get
  set := Draft.set
  read _ := readString
  IsText _ := IsQuoted
  find_name key := by cases key <;> rfl
  find_other s h := by
    have hname := h .osName
    have hversion := h .osVersion
    simp_all [form, Field.of, Key.name]
  get_blank key := by cases key <;> rfl
  get_set draft key v := by cases key <;> rfl
  get_set_ne draft key v other hne := by
    cases key <;> cases other <;> first | rfl | exact absurd rfl hne
  passesSpace _ := passesSpace_readString
  takes _ _ _ := takes_readString

def fields (p : Platform) : List (Sigma keyed.Value) :=
  [⟨Key.osName, p.osName⟩, ⟨Key.osVersion, p.osVersion⟩]

theorem takes_of_isObject {p : Platform} {s : List Char} (h : keyed.IsObject p.fields s) :
    Takes form.read s p := by
  have hkeys : p.fields.NodupKeys := by
    show [Key.osName, Key.osVersion].Nodup
    decide
  obtain ⟨⟨osName, osVersion⟩, hget, htakes⟩ := Form.Keyed.takes_of_isObject hkeys h
  obtain rfl : osName = some p.osName := hget .osName
  obtain rfl : osVersion = some p.osVersion := hget .osVersion
  exact htakes p rfl

/-- What is written for a platform gives its fields. -/
theorem isObject_toJson (p : Platform) : keyed.IsObject p.fields p.toJson.compact := by
  refine ⟨p.fields.map some, .refl _, isObjectOf_compact ?_⟩
  exact .cons ⟨rfl, isQuoted_quote p.osName⟩ (.cons ⟨rfl, isQuoted_quote p.osVersion⟩ .nil)

end Platform

/-! ## Settings -/

namespace Settings

theorem takes_readWord (n : UInt32) : Takes readWord (toString n.toNat).toList n := by
  have h := (takes_readNatural (Nat.le_of_lt (by omega : 32 < 64)) n.toNat_lt).map UInt32.ofNat
  rwa [UInt32.ofNat_toNat] at h

theorem takes_readLongWord (n : UInt64) : Takes readLongWord (toString n.toNat).toList n := by
  have h := (takes_readNatural (Nat.le_refl 64) n.toNat_lt).map UInt64.ofNat
  rwa [UInt64.ofNat_toNat] at h

theorem find_word (choice : OffscreenChoice) :
    OffscreenChoice.variants.find choice.word = .ok choice := by
  cases choice <;> rfl

inductive Key where
  | antialias
  | frameRate
  | offscreen
  | platform
  | minOffscreenSamples
  | minPlatformMinorVersion
  | pollIntervalMs
  | stopGraceMs
deriving DecidableEq

namespace Key

def all : List Key :=
  [antialias, frameRate, offscreen, platform, minOffscreenSamples, minPlatformMinorVersion,
    pollIntervalMs, stopGraceMs]

def name : Key → String
  | antialias => "antialias"
  | frameRate => "frame_rate"
  | offscreen => "offscreen"
  | platform => "platform"
  | minOffscreenSamples => "min_offscreen_samples"
  | minPlatformMinorVersion => "min_platform_minor_version"
  | pollIntervalMs => "poll_interval_ms"
  | stopGraceMs => "stop_grace_ms"

def Value : Key → Type
  | antialias | minOffscreenSamples | minPlatformMinorVersion => UInt32
  | frameRate => Single
  | offscreen => OffscreenChoice
  | platform => Platform
  | pollIntervalMs | stopGraceMs => UInt64

def read : (key : Key) → Reader key.Value
  | antialias | minOffscreenSamples | minPlatformMinorVersion => readWord
  | frameRate => readSingle
  | offscreen => readVariant OffscreenChoice.variants
  | platform => Platform.form.read
  | pollIntervalMs | stopGraceMs => readLongWord

/-- The texts that give a field. -/
def IsText : (key : Key) → key.Value → List Char → Prop
  | antialias, n, s | minOffscreenSamples, n, s | minPlatformMinorVersion, n, s =>
    s = (toString (UInt32.toNat n)).toList
  | frameRate, x, s => readSingle s = .ok (x, [])
  | offscreen, choice, s => IsQuoted (OffscreenChoice.word choice) s
  | platform, p, s => Platform.keyed.IsObject (Platform.fields p) s
  | pollIntervalMs, n, s | stopGraceMs, n, s => s = (toString (UInt64.toNat n)).toList

/-- Every number gives a frame rate unless it is too large for double precision. -/
theorem isText_of_isNumber {s : List Char} (h : IsNumber s) :
    (∃ x, IsText frameRate x s) ∨ readSingle s = .error .numberOutOfRange :=
  readSingle_of_isNumber h

/-- Every text of a field is taken for its value. -/
theorem takes_read {key : Key} {v : key.Value} {s : List Char} (h : key.IsText v s) :
    Takes key.read s v := by
  cases key with
  | antialias | minOffscreenSamples | minPlatformMinorVersion =>
    obtain rfl := h
    exact takes_readWord v
  | frameRate => exact takes_of_readNumber h
  | offscreen => exact takes_readVariant (find_word v) h
  | platform => exact Platform.takes_of_isObject h
  | pollIntervalMs | stopGraceMs =>
    obtain rfl := h
    exact takes_readLongWord v

theorem passesSpace_read (key : Key) : PassesSpace key.read := by
  cases key with
  | antialias | minOffscreenSamples | minPlatformMinorVersion =>
    exact (passesSpace_readNatural 32).map UInt32.ofNat
  | frameRate => exact passesSpace_readSingle
  | offscreen => exact passesSpace_readVariant
  | platform => exact Json.passesSpace_read Platform.form
  | pollIntervalMs | stopGraceMs => exact (passesSpace_readNatural 64).map UInt64.ofNat

end Key

def Draft.get (d : Draft) : (key : Key) → Option key.Value
  | .antialias => d.antialias
  | .frameRate => d.frameRate
  | .offscreen => d.offscreen
  | .platform => d.platform
  | .minOffscreenSamples => d.minOffscreenSamples
  | .minPlatformMinorVersion => d.minPlatformMinorVersion
  | .pollIntervalMs => d.pollIntervalMs
  | .stopGraceMs => d.stopGraceMs

def Draft.set (d : Draft) : (key : Key) → key.Value → Draft
  | .antialias, v => { d with antialias := some v }
  | .frameRate, v => { d with frameRate := some v }
  | .offscreen, v => { d with offscreen := some v }
  | .platform, v => { d with platform := some v }
  | .minOffscreenSamples, v => { d with minOffscreenSamples := some v }
  | .minPlatformMinorVersion, v => { d with minPlatformMinorVersion := some v }
  | .pollIntervalMs, v => { d with pollIntervalMs := some v }
  | .stopGraceMs, v => { d with stopGraceMs := some v }

def keyed : form.Keyed Key where
  Value := Key.Value
  name := Key.name
  get := Draft.get
  set := Draft.set
  read := Key.read
  IsText := Key.IsText
  find_name key := by cases key <;> rfl
  find_other s h := by
    have hall : ∀ key ∈ Key.all, (key.name == s) = false := fun key _ => by simpa using h key
    exact List.find?_eq_none.mpr (by simpa [form, Field.of, Key.all, Key.name] using hall)
  get_blank key := by cases key <;> rfl
  get_set draft key v := by cases key <;> rfl
  get_set_ne draft key v other hne := by
    cases key <;> cases other <;> first | rfl | exact absurd rfl hne
  passesSpace := Key.passesSpace_read
  takes _ _ _ := Key.takes_read

/-- What settings have under a key. -/
def get (c : Settings) : (key : Key) → key.Value
  | .antialias => c.antialias
  | .frameRate => c.frameRate
  | .offscreen => c.offscreen
  | .platform => c.platform
  | .minOffscreenSamples => c.minOffscreenSamples
  | .minPlatformMinorVersion => c.minPlatformMinorVersion
  | .pollIntervalMs => c.pollIntervalMs
  | .stopGraceMs => c.stopGraceMs

/-- Settings are told apart by what they have under the keys. -/
theorem eq_of_get {c c' : Settings} (h : ∀ key, c.get key = c'.get key) : c = c' := by
  have hantialias : c.antialias = c'.antialias := h .antialias
  have hrate : c.frameRate = c'.frameRate := h .frameRate
  have hoffscreen : c.offscreen = c'.offscreen := h .offscreen
  have hplatform : c.platform = c'.platform := h .platform
  have hsamples : c.minOffscreenSamples = c'.minOffscreenSamples := h .minOffscreenSamples
  have hminor : c.minPlatformMinorVersion = c'.minPlatformMinorVersion :=
    h .minPlatformMinorVersion
  have hpoll : c.pollIntervalMs = c'.pollIntervalMs := h .pollIntervalMs
  have hgrace : c.stopGraceMs = c'.stopGraceMs := h .stopGraceMs
  cases c
  cases c'
  simp_all

theorem get_complete (d : Draft) (key : Key) :
    d.complete.get key = (d.get key).getD (standard.get key) := by
  cases key <;> rfl

/-- An object is taken for the settings that have what it gives, the others at their defaults. -/
theorem takes_of_isObject {given : List (Sigma keyed.Value)} {c : Settings} {s : List Char}
    (hkeys : given.NodupKeys) (h : keyed.IsObject given s)
    (hc : ∀ key, c.get key = (given.dlookup key).getD (standard.get key)) :
    Takes form.read s c := by
  obtain ⟨draft, hget, htakes⟩ := Form.Keyed.takes_of_isObject hkeys h
  have hcomplete : draft.complete = c := by
    refine eq_of_get fun key => ?_
    rw [get_complete, hc, ← hget]
    rfl
  exact htakes c (congrArg Except.ok hcomplete)

/-! ## What is written for settings -/

def fields (c : Settings) : List (Sigma keyed.Value) := Key.all.map fun key => ⟨key, c.get key⟩

theorem nodupKeys_fields (c : Settings) : c.fields.NodupKeys := by
  show Key.all.Nodup
  decide

theorem dlookup_fields (c : Settings) (key : Key) : c.fields.dlookup key = some (c.get key) := by
  refine List.mem_dlookup c.nodupKeys_fields (List.mem_map.mpr ⟨key, ?_, rfl⟩)
  cases key <;> decide

end Settings

end Compositor
