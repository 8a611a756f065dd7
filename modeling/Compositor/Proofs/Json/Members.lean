import Compositor.Proofs.Json.Skipping
import Compositor.Proofs.Json.Values
import Mathlib.Data.List.Forall2

/-!
# Objects read member by member

A record takes every object of which each member in turn is accepted for what it stands for,
wherever space stands in the object and however the names are spelled. The value of a field is
accepted if its reader takes it, and the value under any other name is passed over.
-/

namespace Compositor.Json

variable {α δ ε : Type} {s rest gap text : List Char}

/-! ## Members -/

theorem passesSpace_read (form : Form δ α) : PassesSpace form.read := by
  intro gap s hgap
  simp only [Form.read, skipSpace_gap hgap]

theorem scanColon_gap (hgap : IsGap gap) (s : List Char) : scanColon (gap ++ ':' :: s) = .ok s := by
  rw [scanColon, skipSpace_gap hgap, skipSpace_cons (by decide)]
  rfl

theorem nextMember_gap (hgap : IsGap gap) (isFirst : Bool) (s : List Char) :
    nextMember isFirst (gap ++ s) = nextMember isFirst s := by
  rw [nextMember, nextMember, skipSpace_gap hgap]

theorem nextMember_quote (s : List Char) : nextMember true ('"' :: s) = .ok (.more s) := by
  rw [nextMember, skipSpace_cons (by decide)]
  rfl

theorem nextMember_closer (hgap : IsGap gap) (isFirst : Bool) (s : List Char) :
    nextMember isFirst (gap ++ '\x7d' :: s) = .ok (.done s) := by
  rw [nextMember_gap hgap, nextMember, skipSpace_cons (by decide)]
  rfl

/-- The member after a comma starts like the first one. -/
theorem nextMember_comma (hgap : IsGap gap) {before : List Char} (hbefore : IsGap before)
    (s : List Char) :
    nextMember false (gap ++ ',' :: (before ++ '"' :: s)) = .ok (.more s) := by
  rw [nextMember_gap hgap, nextMember, skipSpace_cons (by decide)]
  simp [skipSpace_gap hbefore, skipSpace_cons, isSpace]

variable {writes : ε → String → List Char → Prop}

theorem endsNumber_of_isRestOf {es : List ε} (h : IsRestOf writes es s) (rest : List Char) :
    EndsNumber (s ++ rest) := by
  cases h with
  | close hgap =>
    rw [List.append_assoc]
    exact endsNumber_gap hgap (endsNumber_cons (by decide) _)
  | more hgap _ _ =>
    rw [List.append_assoc]
    exact endsNumber_gap hgap (endsNumber_cons (by decide) _)

namespace Form

variable {form : Form δ α}

/-- A member that stands for `e` is read, and the draft becomes the next one. -/
def Accepts (form : Form δ α) (writes : ε → String → List Char → Prop) (draft : δ) (e : ε)
    (next : δ) : Prop :=
  ∀ name text, writes e name text → ∀ between after rest, IsGap between → IsGap after →
    EndsNumber rest →
      form.readMember draft name (between ++ ':' :: (after ++ (text ++ rest))) = .ok (next, rest)

/-- The members fill the draft, one after the other. -/
inductive Fills (form : Form δ α) (writes : ε → String → List Char → Prop) :
    δ → List ε → δ → Prop where
  | nil {draft : δ} : Fills form writes draft [] draft
  | cons {draft next last : δ} {e : ε} {es : List ε} : form.Accepts writes draft e next →
    Fills form writes next es last → Fills form writes draft (e :: es) last

/-- The value of a field that is not given yet is put into the draft. -/
theorem readMember_of_field {draft next : δ} {name : String} {field : Field δ}
    (hfind : form.fields.find? (·.name == name) = some field) (hgiven : field.given draft = false)
    (hspace : PassesSpace (field.read draft)) (htakes : Takes (field.read draft) text next)
    {between after : List Char} (hbetween : IsGap between) (hafter : IsGap after)
    (hrest : EndsNumber rest) :
    form.readMember draft name (between ++ ':' :: (after ++ (text ++ rest))) =
      .ok (next, rest) := by
  rw [readMember, hfind]
  dsimp only
  rw [hgiven, scanColon_gap hbetween]
  exact (hspace after _ hafter).trans (htakes rest hrest)

/-- A value under another name is passed over. -/
theorem readMember_of_other {draft : δ} {name : String}
    (hfind : form.fields.find? (·.name == name) = none) (htext : IsValue text)
    {between after : List Char} (hbetween : IsGap between) (hafter : IsGap after)
    (hrest : EndsNumber rest) :
    form.readMember draft name (between ++ ':' :: (after ++ (text ++ rest))) =
      .ok (draft, rest) := by
  rw [readMember, hfind]
  dsimp only
  rw [scanColon_gap hbetween]
  show (skipValue _).bind _ = _
  rw [skipValue_append hafter htext hrest]
  rfl

/-- A member is read and then those after it, wherever the scan has come to its name. -/
theorem readMembers_of_member {draft next : δ} {e : ε} (h : form.Accepts writes draft e next)
    {name : String} {spelling between after value : List Char}
    (hname : Spells spelling name.toList) (hbetween : IsGap between) (hafter : IsGap after)
    (hvalue : writes e name value) (hrest : EndsNumber rest) {isFirst : Bool}
    (hnext : nextMember isFirst s =
      .ok (.more (spelling ++ '"' :: (between ++ ':' :: (after ++ (value ++ rest))))))
    (limit : Nat) :
    form.readMembers isFirst draft (limit + 1) s = form.readMembers false next limit rest := by
  rw [readMembers, hnext]
  show (scanString _).bind _ = _
  rw [scanString_of_spells hname]
  show (form.readMember draft name _).bind _ = _
  rw [h name value hvalue between after rest hbetween hafter hrest]
  rfl

/-- The members after the first one are read up to the end of the object. -/
theorem readMembers_of_isRestOf {draft last : δ} {es : List ε}
    (h : form.Fills writes draft es last) (hs : IsRestOf writes es s) {limit : Nat}
    (hlimit : s.length ≤ limit) (rest : List Char) :
    form.readMembers false draft limit (s ++ rest) = .ok (last, rest) := by
  induction h generalizing s limit with
  | nil =>
    cases hs with
    | @close gap hgap =>
      obtain ⟨limit, rfl⟩ : ∃ n, limit = n + 1 := by
        refine Nat.exists_eq_succ_of_ne_zero ?_
        rw [List.length_append, List.length_singleton] at hlimit
        omega
      rw [List.append_assoc, List.singleton_append, readMembers, nextMember_closer hgap]
      rfl
  | @cons draft next last e es haccepts _ ih =>
    cases hs with
    | @more gap m more _ _ hgap hm hmore =>
      obtain ⟨hbefore, hname, hbetween, hafter, hvalue⟩ := hm
      simp only [List.length_append, List.length_cons] at hlimit
      obtain ⟨limit, rfl⟩ : ∃ n, limit = n + 1 :=
        Nat.exists_eq_succ_of_ne_zero (by omega)
      simp only [List.append_assoc, List.cons_append]
      rw [readMembers_of_member haccepts hname hbetween hafter hvalue
        (endsNumber_of_isRestOf hmore rest) (nextMember_comma hgap hbefore _)]
      exact ih hmore (by omega)

/-- An object whose members fill the draft is taken for the record of the draft. -/
theorem takes_read {draft : δ} {es : List ε} {v : α} (h : form.Fills writes form.blank es draft)
    (hs : IsObjectOf writes es s) (hv : form.finish draft = .ok v) : Takes form.read s v := by
  intro rest _
  obtain ⟨t, rfl, hmembers⟩ : ∃ t, s = '\x7b' :: t ∧
      form.readMembers true form.blank ((t ++ rest).length + 1) (t ++ rest) =
        .ok (draft, rest) := by
    cases hs with
    | @empty gap hgap =>
      cases h
      refine ⟨_, rfl, ?_⟩
      rw [List.append_assoc, List.singleton_append, readMembers, nextMember_closer hgap]
      rfl
    | @members m more e es hm hmore =>
      cases h with
      | @cons _ next _ _ _ haccepts hfills =>
        refine ⟨_, rfl, ?_⟩
        obtain ⟨hbefore, hname, hbetween, hafter, hvalue⟩ := hm
        simp only [List.append_assoc, List.cons_append]
        rw [readMembers_of_member haccepts hname hbetween hafter hvalue
          (endsNumber_of_isRestOf hmore rest)
          ((nextMember_gap hbefore true _).trans (nextMember_quote _))]
        refine readMembers_of_isRestOf hfills hmore ?_ rest
        simp only [List.length_append, List.length_cons]
        omega
  rw [List.cons_append, read, skipSpace_cons (by decide)]
  show (form.readMembers true form.blank _ _).bind _ = _
  rw [hmembers]
  show (form.finish draft).bind _ = _
  rw [hv]
  rfl

end Form

/-! ## What is written for an object -/

/-- What is written after a member that others may follow. -/
def closing : List (String × Value) → List Char
  | [] => ['\x7d']
  | m :: members => ',' :: Value.compactMembers (m :: members)

theorem compactMembers_cons (name : String) (v : Value) (members : List (String × Value)) :
    Value.compactMembers ((name, v) :: members) =
      quote name ++ ':' :: v.compact ++ closing members := by
  cases members with
  | nil => rfl
  | cons m members => simp [Value.compactMembers, closing]

/-- A member as it is written, without any space. -/
theorem isMemberOf_compact {name : String} {v : Value} {e : ε} (h : writes e name v.compact) :
    IsMemberOf writes e (quote name ++ ':' :: v.compact) := by
  have hmember := IsMemberOf.intro isGap_nil (spells_escape name.toList) isGap_nil isGap_nil h
  simpa [quote] using hmember

theorem isRestOf_closing {members : List (String × Value)} {es : List ε}
    (h : List.Forall₂ (fun m e => writes e m.1 m.2.compact) members es) :
    IsRestOf writes es (closing members) := by
  induction h with
  | nil => exact .close isGap_nil
  | @cons m e members es hm _ ih =>
    rw [closing, compactMembers_cons]
    exact .more isGap_nil (isMemberOf_compact hm) ih

/-- What is written for a list of members is an object of what they stand for. -/
theorem isObjectOf_compact {members : List (String × Value)} {es : List ε}
    (h : List.Forall₂ (fun m e => writes e m.1 m.2.compact) members es) :
    IsObjectOf writes es (Value.object members).compact := by
  cases h with
  | nil => exact .empty isGap_nil
  | @cons m e members es hm hmembers =>
    rw [Value.compact, compactMembers_cons]
    exact .members (isMemberOf_compact hm) (isRestOf_closing hmembers)

end Compositor.Json
