import Compositor.Json.Skip
import Compositor.Proofs.Json.Grammar
import Compositor.Proofs.Json.Numbers

/-!
# Skipping exactly one value

Skipping takes a well-formed value off a text, whatever stands in it and however deep it is, and
nothing of what follows. With frames open around the value the scan goes on after it; so the proof
goes by the grammar, with a statement for each kind of phrase.
-/

namespace Compositor.Json

variable {s rest gap : List Char} {frames outer : List Frame} {spot : SkipSpot}

/-! ## Steps -/

theorem skipFrom_go {next : List Frame} {c : Char} {spot' : SkipSpot}
    (h : spot.step frames c rest = .go next spot') :
    skipFrom frames spot (c :: rest) = skipFrom next spot' rest := by
  rw [skipFrom, h]

/-- Without a frame nothing more is skipped after the value. -/
theorem skipFrom_after_nil (s : List Char) : skipFrom [] .after s = .ok s := by
  cases s <;> rfl

/-- The scan after a value that has ended. -/
theorem skipFrom_ended {c : Char} (h : spot.step frames c rest = SkipSpot.ended outer) :
    skipFrom frames spot (c :: rest) = skipFrom outer .after rest := by
  rw [skipFrom, h]
  cases outer with
  | nil => rw [skipFrom_after_nil]; rfl
  | cons frame outer => rfl

/-- Space is passed over where it leaves the scan as it is. -/
theorem skipFrom_gap (hgap : IsGap gap)
    (h : ∀ c rest, isSpace c = true → spot.step frames c rest = .go frames spot)
    (s : List Char) : skipFrom frames spot (gap ++ s) = skipFrom frames spot s := by
  induction gap with
  | nil => rfl
  | cons c gap ih =>
    obtain ⟨hc, hrest⟩ := List.forall_mem_cons.mp hgap
    rw [List.cons_append, skipFrom_go (h c _ hc)]
    exact ih hrest

theorem skipFrom_value_gap (hgap : IsGap gap) (s : List Char) :
    skipFrom frames .value (gap ++ s) = skipFrom frames .value s :=
  skipFrom_gap hgap (fun c _ hc => by simp [SkipSpot.step, SkipSpot.start, hc]) s

theorem skipFrom_after_gap (hgap : IsGap gap) (frame : Frame) (s : List Char) :
    skipFrom (frame :: outer) .after (gap ++ s) = skipFrom (frame :: outer) .after s :=
  skipFrom_gap hgap (fun c _ hc => by simp [SkipSpot.step, SkipSpot.follow, hc]) s

theorem skipFrom_opened_gap (hgap : IsGap gap) (frame : Frame) (s : List Char) :
    skipFrom (frame :: outer) .opened (gap ++ s) = skipFrom (frame :: outer) .opened s :=
  skipFrom_gap hgap (fun c _ hc => by simp [SkipSpot.step, SkipSpot.first, hc]) s

theorem skipFrom_member_gap (hgap : IsGap gap) (s : List Char) :
    skipFrom frames .member (gap ++ s) = skipFrom frames .member s :=
  skipFrom_gap hgap (fun c _ hc => by simp [SkipSpot.step, hc]) s

theorem skipFrom_colon_gap (hgap : IsGap gap) (s : List Char) :
    skipFrom frames .colon (gap ++ s) = skipFrom frames .colon s :=
  skipFrom_gap hgap (fun c _ hc => by simp [SkipSpot.step, hc]) s

/-! ## Words and texts -/

theorem skipFrom_word (w : Char) (word rest : List Char) :
    skipFrom frames (.word (w :: word)) (w :: (word ++ rest)) = skipFrom frames .after rest := by
  induction word generalizing w with
  | nil => exact skipFrom_ended (by simp [SkipSpot.step])
  | cons v word ih =>
    have hstep : SkipSpot.step frames w (v :: word ++ rest) (.word (w :: v :: word)) =
        .go frames (.word (v :: word)) := by
      simp [SkipSpot.step]
    rw [skipFrom_go hstep]
    exact ih v

theorem skipFrom_hexDigit {c : Char} {n : Nat} (hc : hexDigit? c = some n) (key : Bool)
    (missing : Nat) (rest : List Char) :
    skipFrom frames (.hex key (missing + 2)) (c :: rest) =
      skipFrom frames (.hex key (missing + 1)) rest :=
  skipFrom_go (by simp [SkipSpot.step, hc])

theorem skipFrom_hexEnd {c : Char} {n : Nat} (hc : hexDigit? c = some n) (key : Bool)
    (rest : List Char) :
    skipFrom frames (.hex key 1) (c :: rest) = skipFrom frames (.text key) rest :=
  skipFrom_go (by simp [SkipSpot.step, hc])

/-- A backslash is followed by its letter. -/
theorem skipFrom_backslash (key : Bool) (rest : List Char) :
    skipFrom frames (.text key) ('\\' :: rest) = skipFrom frames (.escape key) rest :=
  skipFrom_go rfl

/-- The scan up to the closing quote and over it. -/
theorem skipFrom_text (hs : IsUnquoted s) (key : Bool) (rest : List Char) :
    skipFrom frames (.text key) (s ++ '"' :: rest) =
      skipFrom frames (if key then .colon else .after) rest := by
  induction hs with
  | nil =>
    cases key with
    | true => exact skipFrom_go rfl
    | false => exact skipFrom_ended rfl
  | @plain c s hquote hbackslash hcontrol _ ih =>
    have hstep : SkipSpot.step frames c (s ++ '"' :: rest) (.text key) =
        .go frames (.text key) := by
      simp [SkipSpot.step, hquote, hbackslash, Nat.not_lt.mpr hcontrol]
    rw [List.cons_append, skipFrom_go hstep]
    exact ih
  | @letter c s hletter _ ih =>
    have hu : c ≠ 'u' := by
      rintro rfl
      cases hletter
    have hstep : SkipSpot.step frames c (s ++ '"' :: rest) (.escape key) =
        .go frames (.text key) := by
      simp [SkipSpot.step, hu, hletter]
    rw [List.cons_append, List.cons_append, skipFrom_backslash, skipFrom_go hstep]
    exact ih
  | @unit digits s hunit _ ih =>
    obtain ⟨unit, hunit⟩ := Option.isSome_iff_exists.mp hunit
    obtain ⟨a, b, c, d, _, _, _, _, rfl, ha, hb, hc, hd, -⟩ := eq_of_hexUnit? hunit
    have hescape : skipFrom frames (.escape key) ('u' :: a :: b :: c :: d :: (s ++ '"' :: rest)) =
        skipFrom frames (.hex key 4) (a :: b :: c :: d :: (s ++ '"' :: rest)) :=
      skipFrom_go rfl
    simp only [List.cons_append, List.nil_append]
    rw [skipFrom_backslash, hescape, skipFrom_hexDigit ha, skipFrom_hexDigit hb,
      skipFrom_hexDigit hc, skipFrom_hexEnd hd]
    exact ih

/-! ## Numbers -/

/-- Where a number may end. -/
def SkipSpot.MayEnd (spot : SkipSpot) : Prop :=
  spot = .zero ∨ spot = .whole ∨ spot = .places ∨ spot = .exponent

/-- What ends a number ends it wherever it may end. -/
theorem skipFrom_ends (h : EndsNumber rest) (hspot : spot.MayEnd) :
    skipFrom frames spot rest = skipFrom frames .after rest := by
  cases rest with
  | nil => obtain rfl | rfl | rfl | rfl := hspot <;> rfl
  | cons c rest =>
    obtain ⟨hdigit, hpoint, hlower, hupper⟩ := h c rfl
    have hstep : spot.step frames c rest = SkipSpot.step frames c rest .after := by
      obtain rfl | rfl | rfl | rfl := hspot <;>
        simp [SkipSpot.step, SkipSpot.scale, hdigit, hpoint, hlower, hupper]
    rw [skipFrom, skipFrom, hstep]

theorem skipFrom_digits (hs : ∀ c ∈ s, isDigit c = true)
    (h : ∀ c rest, isDigit c = true → spot.step frames c rest = .go frames spot)
    (rest : List Char) : skipFrom frames spot (s ++ rest) = skipFrom frames spot rest := by
  induction s with
  | nil => rfl
  | cons c s ih =>
    obtain ⟨hc, hs⟩ := List.forall_mem_cons.mp hs
    rw [List.cons_append, skipFrom_go (h c _ hc)]
    exact ih hs

/-- Digits of which the first leads to the spot of the others. -/
theorem skipFrom_isDigits {next : SkipSpot} (hs : IsDigits s)
    (hfirst : ∀ c rest, c ∈ s.head? → isDigit c = true → spot.step frames c rest = .go frames next)
    (hmore : ∀ c rest, isDigit c = true → next.step frames c rest = .go frames next)
    (rest : List Char) : skipFrom frames spot (s ++ rest) = skipFrom frames next rest := by
  obtain ⟨hne, hdigits⟩ := hs
  cases s with
  | nil => exact absurd rfl hne
  | cons c s =>
    obtain ⟨hc, hs⟩ := List.forall_mem_cons.mp hdigits
    rw [List.cons_append, skipFrom_go (hfirst c _ rfl hc)]
    exact skipFrom_digits hs hmore rest

theorem skipFrom_exponent (hs : IsExponent s) (hrest : EndsNumber rest)
    (hspot : spot = .zero ∨ spot = .whole ∨ spot = .places) :
    skipFrom frames spot (s ++ rest) = skipFrom frames .after rest := by
  obtain rfl | ⟨mark, sign, digits, hmark, hsign, hdigits, rfl⟩ := hs
  · refine skipFrom_ends hrest ?_
    obtain rfl | rfl | rfl := hspot <;> simp [SkipSpot.MayEnd]
  · have hstep (rest : List Char) : spot.step frames mark rest = .go frames .mark := by
      obtain rfl | rfl | rfl := hspot <;> obtain rfl | rfl := hmark <;> rfl
    have hexponent (c : Char) (rest : List Char) (hc : isDigit c = true) :
        SkipSpot.step frames c rest .exponent = .go frames .exponent := by
      simp [SkipSpot.step, hc]
    have hends : skipFrom frames .exponent rest = skipFrom frames .after rest :=
      skipFrom_ends hrest (by simp [SkipSpot.MayEnd])
    rw [List.cons_append, List.append_assoc, skipFrom_go (hstep _), ← hends]
    obtain rfl | hsign := hsign
    · refine skipFrom_isDigits hdigits (fun c rest _ hc => ?_) hexponent rest
      have hplus : c ≠ '+' ∧ c ≠ '-' := by
        constructor <;> rintro rfl <;> cases hc
      simp [SkipSpot.step, hc, hplus]
    · have hmarked (s : List Char) :
          skipFrom frames .mark (sign ++ s) = skipFrom frames .markSign s := by
        obtain rfl | rfl := hsign <;> exact skipFrom_go rfl
      rw [hmarked]
      exact skipFrom_isDigits hdigits (fun c rest _ hc => by simp [SkipSpot.step, hc]) hexponent
        rest

/-- The end of a number after the digits before the point. -/
theorem skipFrom_fraction {exponent : List Char} (hs : IsFraction s)
    (hexponent : IsExponent exponent) (hrest : EndsNumber rest)
    (hspot : spot = .zero ∨ spot = .whole) :
    skipFrom frames spot (s ++ (exponent ++ rest)) = skipFrom frames .after rest := by
  obtain rfl | ⟨digits, hdigits, rfl⟩ := hs
  · refine skipFrom_exponent hexponent hrest ?_
    obtain rfl | rfl := hspot <;> simp
  · have hpoint (s : List Char) :
        skipFrom frames spot ('.' :: s) = skipFrom frames .point s := by
      obtain rfl | rfl := hspot <;> exact skipFrom_go rfl
    have hplaces : skipFrom frames .point (digits ++ (exponent ++ rest)) =
        skipFrom frames .places (exponent ++ rest) :=
      skipFrom_isDigits hdigits (fun c rest _ hc => by simp [SkipSpot.step, hc])
        (fun c rest hc => by simp [SkipSpot.step, hc]) _
    rw [List.cons_append, hpoint, hplaces]
    exact skipFrom_exponent hexponent hrest (by simp)

/-- The digits before the point, where a number or its digits may start. -/
theorem skipFrom_whole (hs : IsWhole s) (hspot : spot = .value ∨ spot = .sign) :
    ∃ next, (next = .zero ∨ next = .whole) ∧
      ∀ rest, skipFrom frames spot (s ++ rest) = skipFrom frames next rest := by
  obtain rfl | ⟨hdigits, hzero⟩ := hs
  · refine ⟨.zero, .inl rfl, fun rest => ?_⟩
    obtain rfl | rfl := hspot <;> exact skipFrom_go rfl
  · refine ⟨.whole, .inr rfl, skipFrom_isDigits hdigits (fun c rest hhead hc => ?_)
      fun c rest hc => by simp [SkipSpot.step, hc]⟩
    have hne : c ≠ '0' := by
      rintro rfl
      exact hzero hhead
    have hspace := isSpace_of_isDigit hc
    have hothers : c ≠ 'n' ∧ c ≠ 't' ∧ c ≠ 'f' ∧ c ≠ '-' := by
      refine ⟨?_, ?_, ?_, ?_⟩ <;> rintro rfl <;> cases hc
    obtain rfl | rfl := hspot <;> simp [SkipSpot.step, SkipSpot.start, hne, hspace, hothers, hc]

theorem skipFrom_number (hs : IsNumber s) (hrest : EndsNumber rest) :
    skipFrom frames .value (s ++ rest) = skipFrom frames .after rest := by
  obtain ⟨sign, whole, fraction, exponent, hsign, hwhole, hfraction, hexponent, rfl⟩ := hs
  obtain ⟨start, hstart, hskip⟩ : ∃ start, (start = .value ∨ start = .sign) ∧
      ∀ s, skipFrom frames .value (sign ++ s) = skipFrom frames start s := by
    obtain rfl | rfl := hsign
    · exact ⟨.value, .inl rfl, fun _ => rfl⟩
    · exact ⟨.sign, .inr rfl, fun _ => skipFrom_go rfl⟩
  obtain ⟨next, hnext, hskipWhole⟩ : ∃ next, (next = .zero ∨ next = .whole) ∧
      ∀ s, skipFrom frames start (whole ++ s) = skipFrom frames next s :=
    skipFrom_whole hwhole hstart
  rw [List.append_assoc, hskip, List.append_assoc, hskipWhole, List.append_assoc]
  exact skipFrom_fraction hfraction hexponent hrest hnext

/-! ## Starts -/

/-- A value starts neither with space nor like the end of a list. -/
theorem head_of_isValue (hs : IsValue s) : ∃ c t, s = c :: t ∧ isSpace c = false ∧ c ≠ ']' := by
  cases hs with
  | null | true | false | text | emptyList | list | emptyObject | object =>
    exact ⟨_, _, rfl, by decide, by decide⟩
  | number hs =>
    obtain ⟨c, t, rfl, hc⟩ := head_of_isNumber hs
    obtain rfl | hc := hc
    · exact ⟨'-', t, rfl, by decide, by decide⟩
    · refine ⟨c, t, rfl, isSpace_of_isDigit hc, ?_⟩
      rintro rfl
      cases hc

/-- Where a list starts with an element, its elements are skipped like those after a comma. -/
theorem skipFrom_opened_elements (hs : Derives .elements s) (rest : List Char) :
    skipFrom (.list :: outer) .opened (s ++ rest) =
      skipFrom (.list :: outer) .value (s ++ rest) := by
  obtain ⟨before, c, t, hbefore, rfl, hspace, hcloser⟩ : ∃ before c t, IsGap before ∧
      s = before ++ c :: t ∧ isSpace c = false ∧ c ≠ ']' := by
    obtain ⟨e, t, he, rfl⟩ : ∃ e t, Derives .element e ∧ s = e ++ t := by
      cases hs with
      | lastElement he => exact ⟨s, [], he, (List.append_nil s).symm⟩
      | elements he _ => exact ⟨_, _, he, rfl⟩
    cases he with
    | @element before v after hbefore hv _ =>
      obtain ⟨c, u, rfl, hspace, hcloser⟩ := head_of_isValue hv
      exact ⟨before, c, u ++ after ++ t, hbefore, by simp, hspace, hcloser⟩
  rw [List.append_assoc, skipFrom_opened_gap hbefore, skipFrom_value_gap hbefore,
    List.cons_append, skipFrom, skipFrom]
  simp [SkipSpot.step, SkipSpot.first, hspace, Frame.closer, hcloser]

/-- Where an object starts with a member, its members are skipped like those after a comma. -/
theorem skipFrom_opened_members (hs : Derives .members s) (rest : List Char) :
    skipFrom (.object :: outer) .opened (s ++ rest) =
      skipFrom (.object :: outer) .member (s ++ rest) := by
  obtain ⟨before, t, hbefore, rfl⟩ : ∃ before t, IsGap before ∧ s = before ++ '"' :: t := by
    obtain ⟨m, t, hm, rfl⟩ : ∃ m t, Derives .member m ∧ s = m ++ t := by
      cases hs with
      | lastMember hm => exact ⟨s, [], hm, (List.append_nil s).symm⟩
      | members hm _ => exact ⟨_, _, hm, rfl⟩
    cases hm with
    | @member before name between e hbefore _ _ _ =>
      exact ⟨before, name ++ '"' :: (between ++ ':' :: e) ++ t, hbefore, by simp⟩
  rw [List.append_assoc, skipFrom_opened_gap hbefore, skipFrom_member_gap hbefore]
  rfl

/-! ## Values -/

theorem endsNumber_gap (hgap : IsGap gap) (h : EndsNumber rest) : EndsNumber (gap ++ rest) := by
  cases gap with
  | nil => exact h
  | cons c gap =>
    have hc := hgap c List.mem_cons_self
    simp only [isSpace, Bool.or_eq_true, beq_iff_eq] at hc
    rcases hc with ((rfl | rfl) | rfl) | rfl <;> exact endsNumber_cons (by decide) _

/-- A phrase of each kind is skipped where it may stand: lists and objects up to their end, which
closes their frame, and the others up to what follows. -/
def Skips : Phrase → List Char → Prop
  | .value, s => ∀ frames rest, EndsNumber rest →
    skipFrom frames .value (s ++ rest) = skipFrom frames .after rest
  | .element, s => ∀ frame outer rest, EndsNumber rest →
    skipFrom (frame :: outer) .value (s ++ rest) = skipFrom (frame :: outer) .after rest
  | .elements, s => ∀ outer rest,
    skipFrom (.list :: outer) .value (s ++ ']' :: rest) = skipFrom outer .after rest
  | .member, s => ∀ outer rest, EndsNumber rest →
    skipFrom (.object :: outer) .member (s ++ rest) = skipFrom (.object :: outer) .after rest
  | .members, s => ∀ outer rest,
    skipFrom (.object :: outer) .member (s ++ '\x7d' :: rest) = skipFrom outer .after rest

/-- The end of a frame, after an element or a member and after its start. -/
theorem skipFrom_closer (frame : Frame) (rest : List Char) :
    skipFrom (frame :: outer) .after (frame.closer :: rest) = skipFrom outer .after rest := by
  cases frame <;> exact skipFrom_ended rfl

theorem skipFrom_opened_closer (hgap : IsGap gap) (frame : Frame) (rest : List Char) :
    skipFrom (frame :: outer) .opened (gap ++ frame.closer :: rest) =
      skipFrom outer .after rest := by
  rw [skipFrom_opened_gap hgap]
  cases frame <;> exact skipFrom_ended rfl

/-- The grammar's rules, each of which puts together what is skipped. -/
theorem skips_of_derives {phrase : Phrase} (h : Derives phrase s) : Skips phrase s := by
  induction h with
  | null => exact fun frames rest _ => (skipFrom_go rfl).trans (skipFrom_word 'u' ['l', 'l'] rest)
  | true => exact fun frames rest _ => (skipFrom_go rfl).trans (skipFrom_word 'r' ['u', 'e'] rest)
  | false =>
    exact fun frames rest _ => (skipFrom_go rfl).trans (skipFrom_word 'a' ['l', 's', 'e'] rest)
  | number hs => exact fun frames rest => skipFrom_number hs
  | @text s hs =>
    intro frames rest _
    have hquote : skipFrom frames .value ('"' :: (s ++ '"' :: rest)) =
        skipFrom frames (.text false) (s ++ '"' :: rest) :=
      skipFrom_go rfl
    rw [List.cons_append, List.append_assoc, List.singleton_append, hquote]
    exact skipFrom_text hs false rest
  | @emptyList gap hgap =>
    intro frames rest _
    rw [List.cons_append, List.append_assoc, List.singleton_append]
    exact (skipFrom_go rfl).trans (skipFrom_opened_closer hgap .list rest)
  | @list s hs ih =>
    intro frames rest _
    rw [List.cons_append, List.append_assoc, List.singleton_append]
    exact (skipFrom_go rfl).trans ((skipFrom_opened_elements hs _).trans (ih frames rest))
  | @emptyObject gap hgap =>
    intro frames rest _
    rw [List.cons_append, List.append_assoc, List.singleton_append]
    exact (skipFrom_go rfl).trans (skipFrom_opened_closer hgap .object rest)
  | @object s hs ih =>
    intro frames rest _
    rw [List.cons_append, List.append_assoc, List.singleton_append]
    exact (skipFrom_go rfl).trans ((skipFrom_opened_members hs _).trans (ih frames rest))
  | @element before s after hbefore _ hafter ih =>
    intro frame outer rest hrest
    rw [List.append_assoc, List.append_assoc, skipFrom_value_gap hbefore,
      ih _ _ (endsNumber_gap hafter hrest), skipFrom_after_gap hafter]
  | @lastElement s _ ih =>
    intro outer rest
    rw [ih .list outer _ (endsNumber_cons (by decide) rest)]
    exact skipFrom_closer .list rest
  | @elements s more _ _ ih ihmore =>
    intro outer rest
    rw [List.append_assoc, List.cons_append, ih .list outer _ (endsNumber_cons (by decide) _)]
    exact (skipFrom_go rfl).trans (ihmore outer rest)
  | @member before name between s hbefore hname hbetween _ ih =>
    intro outer rest hrest
    simp only [List.append_assoc, List.cons_append]
    have hquote : skipFrom (.object :: outer) .member
        ('"' :: (name ++ '"' :: (between ++ ':' :: (s ++ rest)))) =
        skipFrom (.object :: outer) (.text true) (name ++ '"' :: (between ++ ':' :: (s ++ rest))) :=
      skipFrom_go rfl
    rw [skipFrom_member_gap hbefore, hquote, skipFrom_text hname, if_pos rfl,
      skipFrom_colon_gap hbetween]
    exact (skipFrom_go rfl).trans (ih .object outer rest hrest)
  | @lastMember s _ ih =>
    intro outer rest
    rw [ih outer _ (endsNumber_cons (by decide) rest)]
    exact skipFrom_closer .object rest
  | @members s more _ _ ih ihmore =>
    intro outer rest
    rw [List.append_assoc, List.cons_append, ih outer _ (endsNumber_cons (by decide) _)]
    exact (skipFrom_go rfl).trans (ihmore outer rest)

/-- Exactly one value is skipped, whatever stands in it and however deep it is. -/
theorem skipValue_append (hgap : IsGap gap) (hs : IsValue s) (hrest : EndsNumber rest) :
    skipValue (gap ++ (s ++ rest)) = .ok rest := by
  rw [skipValue, skipFrom_value_gap hgap]
  exact (skips_of_derives hs [] rest hrest).trans (skipFrom_after_nil rest)

end Compositor.Json
