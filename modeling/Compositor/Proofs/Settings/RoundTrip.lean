import Compositor.Proofs.Settings.Keys

/-!
# Settings read back

Settings that meet their conditions are read back from their text, whatever characters the platform
is named with and however large the numbers are. Of the frame rate it is presupposed that its
numeral reads back as the same number, for the fewest digits that identify a number are read through
double precision, with a rounding at every step.
-/

namespace Compositor

open Json Numeric

/-- The numeral of a number is read as the number. -/
def Json.ReadsBack (x : Single) : Prop :=
  readSingle (numberStyle.render x).toList = .ok (x, [])

namespace Settings

/-- What is written for settings with a finite frame rate that reads back gives all their
fields. -/
theorem isObject_toJson {c : Settings} (hf : c.frameRate.isFinite = true)
    (hr : ReadsBack c.frameRate) : keyed.IsObject c.fields c.toJson.compact := by
  refine ⟨c.fields.map some, .refl _, isObjectOf_compact ?_⟩
  have hrate : readSingle (Value.ofSingle c.frameRate).compact = .ok (c.frameRate, []) := by
    rw [Value.ofSingle, if_pos hf]
    exact hr
  refine .cons ⟨rfl, rfl⟩ (.cons ⟨rfl, hrate⟩ ?_)
  refine .cons ⟨rfl, isQuoted_quote c.offscreen.word⟩ ?_
  refine .cons ⟨rfl, c.platform.isObject_toJson⟩ ?_
  exact .cons ⟨rfl, rfl⟩ (.cons ⟨rfl, rfl⟩ (.cons ⟨rfl, rfl⟩ (.cons ⟨rfl, rfl⟩ .nil)))

/-- Settings with a finite frame rate that reads back are taken from what is written for them. -/
theorem takes_toJson {c : Settings} (hf : c.frameRate.isFinite = true)
    (hr : ReadsBack c.frameRate) : Takes form.read c.toJson.compact c := by
  refine takes_of_isObject c.nodupKeys_fields (isObject_toJson hf hr) fun key => ?_
  rw [dlookup_fields]
  rfl

/-- Settings that meet their conditions are read back from their text. -/
theorem read_render {c : Settings} (hv : c.validate = .ok ()) (hr : ReadsBack c.frameRate) :
    ofText? c.render = .ok c := by
  have hvalid := isValid_of_validate hv
  rw [FrameRate.isValid, Bool.and_eq_true] at hvalid
  have htakes := takes_toJson hvalid.1 hr [] endsNumber_nil
  rw [List.append_nil] at htakes
  have hread : readAll form.read c.render = .ok c := by
    rw [readAll, render, String.toList_ofList, htakes]
    rfl
  rw [ofText?, hread]
  dsimp only
  rw [hv]
  rfl

/-- Settings that meet their conditions are read back unchanged from their text, and what is read
from any text meets the conditions and is read back unchanged as well. -/
theorem roundTrip :
    (∀ c : Settings, c.validate = .ok () → ReadsBack c.frameRate → ofText? c.render = .ok c) ∧
      ∀ (text : String) (c : Settings), ofText? text = .ok c →
        c.validate = .ok () ∧ (ReadsBack c.frameRate → ofText? c.render = .ok c) := by
  refine ⟨fun c => read_render, fun text c h => ?_⟩
  have hv := validate_of_ofText? h
  exact ⟨hv, read_render hv⟩

/-- A name of quotes, controls and characters of every width beside the largest numbers there are,
and a text of one member that is passed over. -/
theorem roundTrip_of_extremes :
    let c : Settings :=
      { Settings.standard with
        antialias := 4294967295
        frameRate := Binary.ofRatio false 23976 1000
        offscreen := .never
        platform := ⟨"\"\\/\n\x00\x1f\x7f é € 𝄞", ""⟩
        pollIntervalMs := 18446744073709551615 }
    let text := "\x7b \"unknown\": [null, \x7b\x7d] \x7d"
    (c.validate = .ok () ∧ ReadsBack c.frameRate ∧ ofText? c.render = .ok c) ∧
      ofText? text = .ok .standard ∧ ReadsBack Settings.standard.frameRate ∧
      ofText? Settings.standard.render = .ok .standard := by
  intro c text
  obtain ⟨hwrite, hread⟩ := roundTrip
  have hvalid : c.validate = .ok () := by decide +kernel
  have hrate : ReadsBack c.frameRate := by
    unfold ReadsBack
    decide +kernel
  have haccepted : ofText? text = .ok .standard := by decide +kernel
  have hstandard : ReadsBack Settings.standard.frameRate := by
    unfold ReadsBack
    decide +kernel
  exact ⟨⟨hvalid, hrate, hwrite c hvalid hrate⟩, haccepted, hstandard,
    (hread text _ haccepted).2 hstandard⟩

end Settings

end Compositor
