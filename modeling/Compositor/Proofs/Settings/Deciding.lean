import Compositor.Proofs.Buffer.Layout
import Compositor.Proofs.Platform.Version
import Compositor.Settings
import Mathlib.Data.Prod.Lex

/-!
# The automatic offscreen decision

Where the settings leave the choice to the platform, a surface draws offscreen on a Mac from a
certain version on and with enough samples. Versions are compared by their major number first. More
antialiasing and a later version never turn offscreen drawing off.
-/

namespace Compositor

open Text

namespace Policy

variable {minMinor minSamples : Nat} {p q : Platform} {caps : Capabilities}

theorem macWorkaround_iff {samples : Nat} :
    macWorkaround minMinor minSamples p samples caps = true ↔
      p.isMacOS = true ∧ minSamples ≤ samples ∧
        ∃ version ∈ p.version?, toLex (10, minMinor) ≤ toLex version := by
  rw [macWorkaround]
  cases p.version? with
  | none => simp
  | some version =>
    obtain ⟨major, minor⟩ := version
    have hlex : toLex (10, minMinor) ≤ toLex (major, minor) ↔
        10 < major ∨ major = 10 ∧ minMinor ≤ minor := by
      rw [Prod.Lex.toLex_le_toLex, eq_comm]
    simp [hlex, and_assoc]

theorem decide_macWorkaround_iff {quality : Nat} :
    (macWorkaround minMinor minSamples).decide p quality caps = true ↔
      p.isMacOS = true ∧ minSamples ≤ effectiveSamples quality ∧
        ∃ version ∈ p.version?, toLex (10, minMinor) ≤ toLex version :=
  macWorkaround_iff

/-- More antialiasing and a later version of the same system keep a frame offscreen. -/
theorem decide_macWorkaround_mono {low high : Nat} {newer : Capabilities} (hquality : low ≤ high)
    (hmac : p.isMacOS = true → q.isMacOS = true)
    (hversion : ∀ v ∈ p.version?, ∃ w ∈ q.version?, toLex v ≤ toLex w)
    (h : (macWorkaround minMinor minSamples).decide p low caps = true) :
    (macWorkaround minMinor minSamples).decide q high newer = true := by
  rw [decide_macWorkaround_iff] at h ⊢
  obtain ⟨hp, hsamples, v, hv, hle⟩ := h
  obtain ⟨w, hw, hvw⟩ := hversion v hv
  exact ⟨hmac hp, hsamples.trans (effectiveSamples_mono hquality), w, hw, hle.trans hvw⟩

end Policy

namespace Settings

theorem policy_of_auto {c : Settings} (h : c.offscreen = .auto) :
    c.policy =
      Policy.macWorkaround c.minPlatformMinorVersion.toNat c.minOffscreenSamples.toNat := by
  rw [policy, h]

/-- How a version is read off its text and what the automatic decision makes of it. -/
theorem decides_by_version (c : Settings) (hauto : c.offscreen = .auto) :
    -- two numerals with white space around them and a dot between, then nothing or another dot
    (∀ (p : Platform) (M m : UInt32) (first second tail : List Char),
      Pads first (toString M.toNat).toList → Pads second (toString m.toNat).toList →
      (∀ ch ∈ tail.head?, ch = '.') → p.osVersion.toList = first ++ '.' :: (second ++ tail) →
      p.version? = some (M.toNat, m.toNat)) ∧
    -- one numeral alone
    (∀ (p : Platform) (M : UInt32), Pads p.osVersion.toList (toString M.toNat).toList →
      p.version? = some (M.toNat, 0)) ∧
    -- a part that counts and is no numeral
    (∀ (p : Platform) (first : List Char) (second? : Option (List Char)),
      Platform.Parts p.osVersion.toList first second? →
      (∀ n, ¬ Tells first n) ∨ (∃ second ∈ second?, ∀ n, ¬ Tells second n) →
      p.version? = none) ∧
    (∀ (p : Platform) (caps : Capabilities) (quality M m : Nat),
      p.isMacOS = true → p.version? = some (M, m) →
      (c.policy.decide p quality caps = true ↔
        c.minOffscreenSamples.toNat ≤ effectiveSamples quality ∧
          toLex (10, c.minPlatformMinorVersion.toNat) ≤ toLex (M, m))) ∧
    (∀ (p : Platform) (caps : Capabilities) (quality : Nat),
      p.isMacOS = false ∨ p.version? = none → c.policy.decide p quality caps = false) ∧
    (∀ (p : Platform) (caps : Capabilities) (low high : Nat), low ≤ high →
      c.policy.decide p low caps = true → c.policy.decide p high caps = true) ∧
    (∀ (p q : Platform) (caps : Capabilities) (quality : Nat) (v w : Nat × Nat),
      p.isMacOS = true → q.isMacOS = true → p.version? = some v → q.version? = some w →
      toLex v ≤ toLex w →
      c.policy.decide p quality caps = true → c.policy.decide q quality caps = true) := by
  rw [policy_of_auto hauto]
  refine ⟨?_, ?_, fun p first second? => p.version?_eq_none, ?_, ?_, ?_, ?_⟩
  · intro p M m first second tail hfirst hsecond htail htext
    exact Platform.version?_of_tells_dotted htext hfirst.tells_toString hsecond.tells_toString htail
  · intro p M hpads
    exact Platform.version?_of_tells hpads.tells_toString
  · intro p caps quality M m hmac hversion
    simp [Policy.decide_macWorkaround_iff, hmac, hversion]
  · intro p caps quality h
    rw [Bool.eq_false_iff, ne_eq, Policy.decide_macWorkaround_iff]
    rintro ⟨hmac, -, version, hversion, -⟩
    obtain hother | hnone := h
    · simp [hother] at hmac
    · simp [hnone] at hversion
  · intro p caps low high hle h
    exact Policy.decide_macWorkaround_mono hle id (fun v hv => ⟨v, hv, le_refl _⟩) h
  · intro p q caps quality v w hp hq hv hw hle h
    refine Policy.decide_macWorkaround_mono (le_refl _) (fun _ => hq) ?_ h
    intro u hu
    obtain rfl : v = u := Option.some.inj (hv.symm.trans hu)
    exact ⟨w, hw, hle⟩

/-- A Mac whose version is written with white space, a later one without a minor number, and one
whose minor number is no numeral. -/
theorem decides_by_version_of_spaced_text :
    let c : Settings := { standard with minOffscreenSamples := 4 }
    let spaced : Platform := ⟨"Mac OS X", " 10.\t8 .5b"⟩
    let later : Platform := ⟨"macOS", "14 "⟩
    let worded : Platform := ⟨"macOS", "10.x"⟩
    spaced.version? = some (10, 8) ∧ later.version? = some (14, 0) ∧ worded.version? = none ∧
      c.policy.decide spaced 5 .none = true ∧ c.policy.decide worded 5 .none = false ∧
      c.policy.decide spaced 16 .none = true ∧ c.policy.decide later 16 .none = true := by
  intro c spaced later worded
  have htold := decides_by_version c rfl
  obtain ⟨hpair, hlone, hnone, hiff, hnever, hsamples, hversion⟩ := htold
  have htail : ∀ c ∈ ".5b".toList.head?, c = '.' := by
    intro c hc
    cases hc
    rfl
  have hspaced : spaced.version? = some (10, 8) :=
    hpair spaced 10 8 " 10".toList "\t8 ".toList ".5b".toList
      ⟨" ".toList, [], by decide, by decide, rfl⟩
      ⟨"\t".toList, " ".toList, by decide, by decide, rfl⟩ htail (by decide)
  have hlater : later.version? = some (14, 0) :=
    hlone later 14 ⟨[], " ".toList, by decide, by decide, by decide⟩
  have hworded : worded.version? = none := by
    have htext : worded.osVersion.toList = "10".toList ++ '.' :: ("x".toList ++ []) := by decide
    have hparts : Platform.Parts worded.osVersion.toList "10".toList (some "x".toList) :=
      htext ▸ .dotted (by decide) (by decide) nofun
    have hx : word? (trim "x".toList) = none := by decide
    refine hnone worded _ _ hparts (Or.inr ⟨_, rfl, ?_⟩)
    intro n h
    rw [word?_trim_eq_some_iff.mpr h] at hx
    cases hx
  have hfive : c.policy.decide spaced 5 .none = true := by
    rw [hiff spaced .none 5 10 8 (by decide) hspaced, Prod.Lex.toLex_le_toLex]
    decide
  have hmany := hsamples spaced .none 5 16 (by decide) hfive
  refine ⟨hspaced, hlater, hworded, hfive, hnever worded .none 5 (Or.inr hworded), hmany, ?_⟩
  refine hversion spaced later .none 16 _ _ (by decide) (by decide) hspaced hlater ?_ hmany
  rw [Prod.Lex.toLex_le_toLex]
  decide

end Settings

end Compositor
