import Compositor.Proofs.Driver.Stored

/-!
# What driver calls change

`Driver.target?` names the one object that a call makes, deletes or alters in more than its
contents. `Driver.Acts` says once what a call may do to the objects, and what follows is read off
it: all objects but the target keep their outline, which is everything but the contents of an image
and the uniform values of a program (`outline?_perform`). Only few calls change the pipeline, the
display or a binding.
-/

namespace Compositor

open Numeric

/-- The handle of an image. -/
def Image.handle : Image → Handle
  | texture id => id.handle
  | renderbuffer id => id.handle

namespace Stored

/-- An object but for the contents of an image and the uniform values of a program. -/
def outline : Stored → Stored
  | texture t => texture { t with fill := .fresh }
  | renderbuffer r => renderbuffer { r with fill := .fresh }
  | program p => program { p with values := [] }
  | s => s

/-- The contents of an image. -/
def fill? : Stored → Option Fill
  | texture t => some t.fill
  | renderbuffer r => some r.fill
  | _ => none

/-- Changes the contents of an image. -/
def mapFill (f : Fill → Fill) : Stored → Stored
  | texture t => texture { t with fill := f t.fill }
  | renderbuffer r => renderbuffer { r with fill := f r.fill }
  | s => s

@[simp] theorem outline_mapFill (f : Fill → Fill) (s : Stored) :
    (s.mapFill f).outline = s.outline := by
  cases s <;> rfl

end Stored

namespace Objects

/-- The outline of the object under a handle. -/
def outline? (o : Objects) (h : Handle) : Option Stored := (o.stored? h).map Stored.outline

theorem outline?_congr {o p : Objects} {h : Handle} (hs : p.stored? h = o.stored? h) :
    p.outline? h = o.outline? h := by
  rw [outline?, outline?, hs]

theorem outline?_of_stored? {o : Objects} {h : Handle} {s : Stored} (hs : o.stored? h = some s) :
    o.outline? h = some s.outline := by
  rw [outline?, hs]
  rfl

theorem live_iff_outline? (o : Objects) (h : Handle) : o.Live h ↔ o.outline? h ≠ none := by
  simp [Live, outline?]

theorem live_congr {o p : Objects} {h : Handle} (ho : p.outline? h = o.outline? h) :
    p.Live h ↔ o.Live h := by
  rw [live_iff_outline?, live_iff_outline?, ho]

theorem fill?_eq (o : Objects) (image : Image) :
    o.fill? image = (o.stored? image.handle).bind Stored.fill? := by
  cases image with
  | texture id =>
    simp only [fill?, Image.handle, stored?_texture]
    cases o.textures.get? id <;> rfl
  | renderbuffer id =>
    simp only [fill?, Image.handle, stored?_renderbuffer]
    cases o.renderbuffers.get? id <;> rfl

/-- An image that is live has contents. -/
theorem exists_fill? (o : Objects) {image : Image} (h : o.Live image.handle) :
    ∃ fill, o.fill? image = some fill := by
  cases image with
  | texture id =>
    rw [Image.handle, Live, stored?_texture] at h
    cases ht : o.textures.get? id with
    | none => simp [ht] at h
    | some t => exact ⟨t.fill, by rw [fill?, ht]; rfl⟩
  | renderbuffer id =>
    rw [Image.handle, Live, stored?_renderbuffer] at h
    cases hr : o.renderbuffers.get? id with
    | none => simp [hr] at h
    | some r => exact ⟨r.fill, by rw [fill?, hr]; rfl⟩

theorem stored?_modifyFill (o : Objects) (f : Fill → Fill) (image : Image) (h : Handle) :
    (o.modifyFill f image).stored? h =
      if h = image.handle then (o.stored? h).map (Stored.mapFill f) else o.stored? h := by
  cases image with
  | texture id => exact stored?_modify_map o id (g := Stored.mapFill f) (fun _ => rfl) h
  | renderbuffer id => exact stored?_modify_map o id (g := Stored.mapFill f) (fun _ => rfl) h

theorem outline?_modifyFill (o : Objects) (f : Fill → Fill) (image : Image) (h : Handle) :
    (o.modifyFill f image).outline? h = o.outline? h := by
  rw [outline?, outline?, stored?_modifyFill]
  split
  · simp [Option.map_map, Function.comp_def]
  · rfl

theorem outline?_modify (o : Objects) {k : Kind} (id : ObjectId k) {f : k.Object → k.Object}
    (hf : ∀ v, (k.store (f v)).outline = (k.store v).outline) (h : Handle) :
    (o.setTable k ((o.table k).modify id f)).outline? h = o.outline? h := by
  rw [outline?, stored?_modify]
  split
  · rename_i he
    rw [he, outline?, stored?_handle, Option.map_map, Option.map_map]
    exact Option.map_congr fun v _ => hf v
  · rfl

theorem edits_modifyFill (o : Objects) (f : Fill → Fill) (image : Image) :
    o.Edits (o.modifyFill f image) := by
  cases image with
  | texture id => exact Edits.modify (k := .texture) id _ .refl
  | renderbuffer id => exact Edits.modify (k := .renderbuffer) id _ .refl

end Objects

/-! ## Calls by what they change -/

/-- The object that a call deletes. -/
def Call.deletes? : Call → Option Handle
  | deleteTexture id => some id.handle
  | deleteFramebuffer id => some id.handle
  | deleteRenderbuffer id => some id.handle
  | deleteShader id => some id.handle
  | deleteProgram id => some id.handle
  | _ => none

/-- What a call makes. -/
def Call.creates? : Call → Option Creation
  | create what => some what
  | _ => none

/-- Whether a call sets a part of the pipeline. -/
def Call.setsPipeline : Call → Bool
  | switch .. | depthMask _ | colorMask _ | swapInterval _ | clearColor _ | clearDepth _
  | clearStencil _ => true
  | _ => false

/-- Whether a call may change what is bound. -/
def Call.setsBindings : Call → Bool
  | bindTexture .. | deleteTexture _ | bindFramebuffer .. | deleteFramebuffer _ | bindRenderbuffer _
  | deleteRenderbuffer _ | deleteProgram _ | useProgram _ => true
  | _ => false

/-- Whether a call may change which program is in use. -/
def Call.setsProgram : Call → Bool
  | deleteProgram _ | useProgram _ => true
  | _ => false

/-- Whether a call may change which framebuffers are bound. -/
def Call.setsFramebuffer : Call → Bool
  | bindFramebuffer .. | deleteFramebuffer _ => true
  | _ => false

/-- Whether a call paints: it may change the contents of images or of the display. -/
def Call.paints : Call → Bool
  | copy .. | clear _ | drawStrip .. => true
  | _ => false

/-- Whether a call gives a value to a uniform. -/
def Call.setsUniform : Call → Bool
  | uniformColor .. | uniformInt .. => true
  | _ => false

/-- Whether a call leaves all objects as they are, but for contents and uniform values. -/
def Call.isQuiet : Call → Bool
  | create _ | textureImage .. | deleteTexture _ | attachTexture .. | attachRenderbuffer ..
  | deleteFramebuffer _ | renderbufferStorage .. | deleteRenderbuffer _ | compile ..
  | deleteShader _ | attachShader .. | link _ | deleteProgram _ => false
  | _ => true

/-- What a call makes of the bindings. -/
def Call.rebind (c : Call) (b : Bindings) : Bindings :=
  match c with
  | bindTexture target id => b.bindTexture id target
  | deleteTexture id => { b with
      texture2d := if b.texture2d = some id then none else b.texture2d
      rectangle := if b.rectangle = some id then none else b.rectangle }
  | bindFramebuffer target id => b.bindFramebuffer id target
  | deleteFramebuffer id => { b with
      read := if b.read = some id then none else b.read
      draw := if b.draw = some id then none else b.draw }
  | bindRenderbuffer id => { b with renderbuffer := id }
  | deleteRenderbuffer id => { b with
      renderbuffer := if b.renderbuffer = some id then none else b.renderbuffer }
  | useProgram id => { b with program := id }
  | deleteProgram id => { b with program := if b.program = some id then none else b.program }
  | _ => b

theorem Call.eq_create {c : Call} {what : Creation} (h : c.creates? = some what) :
    c = .create what := by
  cases c <;> first | cases h; rfl | cases h

theorem Call.creates?_of_isQuiet {c : Call} (h : c.isQuiet = true) : c.creates? = none := by
  cases c <;> first | rfl | cases h

theorem Call.deletes?_of_isQuiet {c : Call} (h : c.isQuiet = true) : c.deletes? = none := by
  cases c <;> first | rfl | cases h

namespace Driver

/-- The object that a call makes, deletes or changes, where contents and uniform values do not
count. -/
def target? (d : Driver) : Call → Option Handle
  | .create what => some ⟨what.kind, d.objects.issued + 1⟩
  | .textureImage target _ => (d.bindings.texture target).map (·.handle)
  | .deleteTexture id => some id.handle
  | .attachTexture .. | .attachRenderbuffer .. => d.bindings.draw.map (·.handle)
  | .deleteFramebuffer id => some id.handle
  | .renderbufferStorage .. => d.bindings.renderbuffer.map (·.handle)
  | .deleteRenderbuffer id => some id.handle
  | .compile id _ | .deleteShader id => some id.handle
  | .attachShader id _ | .link id | .deleteProgram id => some id.handle
  | _ => none

theorem target?_of_isQuiet (d : Driver) {c : Call} (h : c.isQuiet = true) : d.target? c = none := by
  cases c <;> first | rfl | cases h

/-! ## Painting -/

/-- The image in a slot of what is drawn to. -/
def drawImage? (d : Driver) (slot : Attachment) : Option Image :=
  d.bindings.draw.bind (d.slot? · slot)

theorem objects_paint (d : Driver) (slot : Attachment) (f : Fill → Fill) :
    (d.paint slot f).objects =
      match d.drawImage? slot with
      | none => d.objects
      | some image => d.objects.modifyFill f image := by
  unfold paint drawImage?
  cases d.bindings.draw with
  | none => rfl
  | some id =>
    simp only [Option.bind_some]
    cases d.slot? id slot <;> rfl

/-- Paintings of what is drawn to, one slot at a time: what a copy, a clear or a draw amounts to but
for what is counted. -/
inductive Painted (d : Driver) : Driver → Prop where
  | refl : Painted d d
  | paint {e : Driver} (slot : Attachment) (f : Fill → Fill) :
    Painted d e → Painted d (e.paint slot f)
  | count {e : Driver} (statistics : Statistics) (lastCopy : Option CopyRecord) :
    Painted d e → Painted d { e with statistics := statistics, lastCopy := lastCopy }

/-- Counting first and painting where a condition holds. -/
theorem Painted.paintIf {d e : Driver} (h : d.Painted e) (b : Bool) (slot : Attachment)
    (f : Fill → Fill) : d.Painted (if b then e.paint slot f else e) := by
  cases b with
  | false => exact h
  | true => exact h.paint slot f

theorem painted_perform (d : Driver) {c : Call} (h : c.paints = true) :
    d.Painted (d.perform c) := by
  cases c with
  | copy source target planes filter =>
    exact (((Painted.count _ _ .refl).paintIf _ _ _).paintIf _ _ _).paintIf _ _ _
  | clear planes =>
    exact (((Painted.count _ _ .refl).paintIf _ _ _).paintIf _ _ _).paintIf _ _ _
  | drawStrip streams count =>
    simp only [perform, drawStrip]
    split
    · exact .count _ _ .refl
    · split
      · exact .count _ _ .refl
      · exact .paint _ _ (.count _ _ .refl)
  | _ => cases h

/-- What the contents of images do not matter to holds of the objects after painting. -/
theorem Painted.objects_induct {d e : Driver} (h : d.Painted e) {P : Objects → Prop}
    (hstart : P d.objects) (hpaint : ∀ o f image, P o → P (o.modifyFill f image)) :
    P e.objects := by
  induction h with
  | refl => exact hstart
  | @paint e slot f _ ih =>
    rw [objects_paint]
    cases e.drawImage? slot with
    | none => exact ih
    | some image => exact hpaint _ f image ih
  | count _ _ _ ih => exact ih

theorem Painted.edits {d e : Driver} (h : d.Painted e) : d.objects.Edits e.objects :=
  h.objects_induct .refl fun o f image ho => ho.trans (o.edits_modifyFill f image)

theorem Painted.issued {d e : Driver} (h : d.Painted e) : e.objects.issued = d.objects.issued :=
  h.objects_induct (P := fun o => o.issued = d.objects.issued) rfl fun _ _ image ho => by
    cases image <;> exact ho

theorem Painted.outline? {d e : Driver} (h : d.Painted e) (x : Handle) :
    e.objects.outline? x = d.objects.outline? x :=
  h.objects_induct (P := fun o => o.outline? x = d.objects.outline? x) rfl
    fun o f image ho => (o.outline?_modifyFill f image x).trans ho

theorem paint_eq (d : Driver) (slot : Attachment) (f : Fill → Fill) :
    d.paint slot f =
      { d with objects := (d.paint slot f).objects, display := (d.paint slot f).display } := by
  unfold paint
  split
  · rfl
  · split <;> rfl

/-- Painting changes objects, the display and what is counted, and nothing else. -/
theorem Painted.eq {d e : Driver} (h : d.Painted e) :
    e = { d with
      objects := e.objects
      display := e.display
      statistics := e.statistics
      lastCopy := e.lastCopy } := by
  induction h with
  | refl => rfl
  | @paint e slot f _ ih =>
    rw [paint_eq, ih]
  | count _ _ _ ih =>
    rw [ih]

/-! ## Objects -/

theorem objects_make (d : Driver) (what : Creation) :
    (d.make what).objects = d.objects.issue what.kind what.object := by
  cases what <;> rfl

/-- The kinds of what a call does to the objects. -/
inductive Acts (d : Driver) (c : Call) : Objects → Prop where
  | idle : c.creates? = none → c.deletes? = none → Acts d c d.objects
  /-- Contents of images change. -/
  | paint {e : Driver} : c.paints = true → c.creates? = none → c.deletes? = none → d.Painted e →
    Acts d c e.objects
  | issue (what : Creation) : c = .create what → Acts d c (d.objects.issue what.kind what.object)
  | erase {k : Kind} (id : ObjectId k) : c.creates? = none → c.deletes? = some id.handle →
    d.target? c = some id.handle → Acts d c (d.objects.setTable k ((d.objects.table k).erase id))
  /-- The target of the call changes. -/
  | modify {k : Kind} (id : ObjectId k) (f : k.Object → k.Object) : c.creates? = none →
    c.deletes? = none → d.target? c = some id.handle →
    Acts d c (d.objects.setTable k ((d.objects.table k).modify id f))
  /-- Uniform values of a program change. -/
  | setUniform (id : ProgramId) (f : Program → Program) : c.setsUniform = true →
    c.creates? = none → c.deletes? = none →
    (∀ p, (Stored.program (f p)).outline = (Stored.program p).outline) →
    Acts d c (d.objects.setTable .program ((d.objects.table .program).modify id f))

theorem acts_modifyProgram (d : Driver) {c : Call} {f : Program → Program}
    (hu : c.setsUniform = true) (hc : c.creates? = none) (hd : c.deletes? = none)
    (hf : ∀ p, (Stored.program (f p)).outline = (Stored.program p).outline) :
    d.Acts c (d.modifyProgram f).objects := by
  unfold modifyProgram
  split
  · exact .idle hc hd
  · exact .setUniform _ f hu hc hd hf

theorem acts_attach (d : Driver) {c : Call} (image : Image) (slot : Attachment)
    (hc : c.creates? = none) (hd : c.deletes? = none)
    (ht : d.target? c = d.bindings.draw.map (·.handle)) :
    d.Acts c (d.attach slot image).objects := by
  unfold attach
  split
  · exact .idle hc hd
  · rename_i fb hb
    rw [hb] at ht
    exact .modify (k := .framebuffer) fb _ hc hd ht

theorem acts_perform (d : Driver) (c : Call) : d.Acts c (d.perform c).objects := by
  cases c with
  | create what =>
    rw [show d.perform (.create what) = d.make what from rfl, objects_make]
    exact .issue what rfl
  | textureImage target size =>
    simp only [perform, textureImage]
    split
    · exact .idle rfl rfl
    · rename_i id hb
      exact .modify (k := .texture) id _ rfl rfl (by rw [target?, hb]; rfl)
  | renderbufferStorage format samples size =>
    simp only [perform, renderbufferStorage]
    split
    · exact .idle rfl rfl
    · rename_i id hb
      exact .modify (k := .renderbuffer) id _ rfl rfl (by rw [target?, hb]; rfl)
  | attachTexture slot target id => exact d.acts_attach _ slot rfl rfl rfl
  | attachRenderbuffer slot id => exact d.acts_attach _ slot rfl rfl rfl
  | deleteTexture id => exact .erase id rfl rfl rfl
  | deleteFramebuffer id => exact .erase id rfl rfl rfl
  | deleteRenderbuffer id => exact .erase id rfl rfl rfl
  | deleteShader id => exact .erase id rfl rfl rfl
  | deleteProgram id => exact .erase id rfl rfl rfl
  | compile id source => exact .modify (k := .shader) id _ rfl rfl rfl
  | attachShader id shader => exact .modify (k := .program) id _ rfl rfl rfl
  | link id => exact .modify (k := .program) id _ rfl rfl rfl
  | uniformColor location value => exact d.acts_modifyProgram rfl rfl rfl fun _ => rfl
  | uniformInt location value => exact d.acts_modifyProgram rfl rfl rfl fun _ => rfl
  | copy source target planes filter => exact .paint rfl rfl rfl (painted_perform d rfl)
  | clear planes => exact .paint rfl rfl rfl (painted_perform d rfl)
  | drawStrip streams count => exact .paint rfl rfl rfl (painted_perform d rfl)
  | _ => exact .idle rfl rfl

namespace Acts

variable {d : Driver} {c : Call} {o : Objects} {x : Handle}

theorem edits (h : d.Acts c o) : d.objects.Edits o := by
  cases h with
  | idle => exact .refl
  | paint _ _ _ hp => exact hp.edits
  | issue what => exact .issue _ _ .refl
  | erase id => exact .erase id .refl
  | modify id f => exact .modify id f .refl
  | setUniform id f => exact .modify (k := .program) id f .refl

/-- Only a creation hands out a name. -/
theorem issued (h : d.Acts c o) (hc : c.creates? = none) : o.issued = d.objects.issued := by
  cases h with
  | idle => rfl
  | paint _ _ _ hp => exact hp.issued
  | issue what he =>
    rw [he] at hc
    cases hc
  | erase id => exact Objects.issued_setTable ..
  | modify id f => exact Objects.issued_setTable ..
  | setUniform id f => exact Objects.issued_setTable ..

/-- A call that neither paints nor sets a uniform changes its target alone. -/
theorem stored? (h : d.Acts c o) (hp : c.paints = false) (hu : c.setsUniform = false)
    (hx : d.target? c ≠ some x) : o.stored? x = d.objects.stored? x := by
  cases h with
  | idle => rfl
  | paint hpaints =>
    rw [hp] at hpaints
    cases hpaints
  | issue what he =>
    subst he
    rw [Objects.stored?_issue, if_neg fun h => hx (congrArg some h.symm)]
  | erase id _ _ ht =>
    rw [ht] at hx
    rw [Objects.stored?_erase, if_neg fun h => hx (congrArg some h.symm)]
  | modify id f _ _ ht =>
    rw [ht] at hx
    rw [Objects.stored?_modify, if_neg fun h => hx (congrArg some h.symm)]
  | setUniform id f huniform =>
    rw [hu] at huniform
    cases huniform

/-- A call changes the outline of its target alone. -/
theorem outline? (h : d.Acts c o) (hx : d.target? c ≠ some x) :
    o.outline? x = d.objects.outline? x := by
  cases h with
  | idle => rfl
  | paint _ _ _ hp => exact hp.outline? x
  | issue what he =>
    subst he
    refine Objects.outline?_congr ?_
    rw [Objects.stored?_issue, if_neg fun h => hx (congrArg some h.symm)]
  | erase id _ _ ht =>
    rw [ht] at hx
    refine Objects.outline?_congr ?_
    rw [Objects.stored?_erase, if_neg fun h => hx (congrArg some h.symm)]
  | modify id f _ _ ht =>
    rw [ht] at hx
    refine Objects.outline?_congr ?_
    rw [Objects.stored?_modify, if_neg fun h => hx (congrArg some h.symm)]
  | setUniform id f _ _ _ hf => exact Objects.outline?_modify (k := .program) _ id hf x

/-- A deletion takes its object out of one table. -/
theorem exists_erase (h : d.Acts c o) (hx : c.deletes? = some x) :
    ∃ (k : Kind) (id : ObjectId k), x = id.handle ∧
      o = d.objects.setTable k ((d.objects.table k).erase id) := by
  have absent {P : Prop} (hd : c.deletes? = none) : P := by
    rw [hx] at hd
    cases hd
  cases h with
  | idle _ hd => exact absent hd
  | paint _ _ hd => exact absent hd
  | issue what he => exact absent (by rw [he]; rfl)
  | @erase k id _ hd => exact ⟨k, id, Option.some.inj (hx.symm.trans hd), rfl⟩
  | modify id f _ hd => exact absent hd
  | setUniform id f _ _ hd => exact absent hd

/-- What a deletion does to each handle. -/
theorem stored?_of_deletes (h : d.Acts c o) (hx : c.deletes? = some x) (y : Handle) :
    o.stored? y = if y = x then none else d.objects.stored? y := by
  obtain ⟨k, id, rfl, rfl⟩ := h.exists_erase hx
  exact Objects.stored?_erase d.objects id y

/-- The deletion of what is not there changes no table. -/
theorem eq_of_not_live (h : d.Acts c o) (hx : c.deletes? = some x) (hl : ¬ d.objects.Live x) :
    o = d.objects := by
  obtain ⟨k, id, rfl, rfl⟩ := h.exists_erase hx
  rw [Objects.live_iff_contains, ← Table.mem_ids_iff] at hl
  rw [Table.erase_eq_self hl, Objects.setTable_table]

/-- Calls that neither make nor delete an object keep what is live. -/
theorem live (h : d.Acts c o) (hc : c.creates? = none) (hd : c.deletes? = none) (x : Handle) :
    o.Live x ↔ d.objects.Live x := by
  cases h with
  | idle => rfl
  | paint _ _ _ hp => exact Objects.live_congr (hp.outline? x)
  | issue what he =>
    rw [he] at hc
    cases hc
  | erase id _ hdeletes =>
    rw [hd] at hdeletes
    cases hdeletes
  | modify id f =>
    rw [Objects.Live, Objects.stored?_modify]
    split
    · rename_i hx
      subst hx
      simp [Objects.Live, Objects.stored?_handle]
    · rfl
  | setUniform id f _ _ _ hf =>
    exact Objects.live_congr (Objects.outline?_modify (k := .program) _ id hf x)

end Acts

theorem edits_perform (d : Driver) (c : Call) : d.objects.Edits (d.perform c).objects :=
  (d.acts_perform c).edits

theorem issued_perform (d : Driver) {c : Call} (hc : c.creates? = none) :
    (d.perform c).objects.issued = d.objects.issued :=
  (d.acts_perform c).issued hc

theorem issued_perform_create (d : Driver) (what : Creation) :
    (d.perform (.create what)).objects.issued = d.objects.issued + 1 := by
  rw [show d.perform (.create what) = d.make what from rfl, objects_make, Objects.issued_issue]

theorem stored?_perform_of_deletes {d : Driver} {c : Call} {x : Handle}
    (hc : c.deletes? = some x) (h : Handle) :
    (d.perform c).objects.stored? h = if h = x then none else d.objects.stored? h :=
  (d.acts_perform c).stored?_of_deletes hc h

theorem objects_perform_of_not_live {d : Driver} {c : Call} {x : Handle}
    (hc : c.deletes? = some x) (hl : ¬ d.objects.Live x) : (d.perform c).objects = d.objects :=
  (d.acts_perform c).eq_of_not_live hc hl

/-- What a creation does to each handle. -/
theorem stored?_perform_create (d : Driver) (what : Creation) (h : Handle) :
    (d.perform (.create what)).objects.stored? h =
      if h = ⟨what.kind, d.objects.issued + 1⟩ then some (what.kind.store what.object)
      else d.objects.stored? h := by
  rw [show d.perform (.create what) = d.make what from rfl, objects_make, Objects.stored?_issue]

theorem stored?_perform {d : Driver} {c : Call} (hp : c.paints = false) (hu : c.setsUniform = false)
    {x : Handle} (h : d.target? c ≠ some x) :
    (d.perform c).objects.stored? x = d.objects.stored? x :=
  (d.acts_perform c).stored? hp hu h

theorem outline?_perform {d : Driver} {c : Call} {x : Handle} (h : d.target? c ≠ some x) :
    (d.perform c).objects.outline? x = d.objects.outline? x :=
  (d.acts_perform c).outline? h

theorem outline?_perform_of_isQuiet (d : Driver) {c : Call} (h : c.isQuiet = true) (x : Handle) :
    (d.perform c).objects.outline? x = d.objects.outline? x :=
  outline?_perform (by rw [target?_of_isQuiet d h]; exact nofun)

theorem live_perform_of_keeps (d : Driver) {c : Call} (hc : c.creates? = none)
    (hd : c.deletes? = none) (x : Handle) : (d.perform c).objects.Live x ↔ d.objects.Live x :=
  (d.acts_perform c).live hc hd x

/-- Only a deletion ends the life of an object. -/
theorem live_perform {d : Driver} {c : Call} {x : Handle} (hc : c.deletes? ≠ some x)
    (hx : d.objects.Live x) : (d.perform c).objects.Live x := by
  cases hd : c.deletes? with
  | some y =>
    rw [Objects.Live, stored?_perform_of_deletes hd, if_neg]
    · exact hx
    · rintro rfl
      exact hc hd
  | none =>
    cases hn : c.creates? with
    | none => exact (d.live_perform_of_keeps hn hd x).mpr hx
    | some what =>
      obtain rfl := Call.eq_create hn
      rw [Objects.Live, stored?_perform_create]
      split
      · exact Option.some_ne_none _
      · exact hx

/-- A call that makes no object brings none to life. -/
theorem live_of_perform {d : Driver} {c : Call} {x : Handle} (hc : c.creates? = none)
    (hx : (d.perform c).objects.Live x) : d.objects.Live x := by
  cases hd : c.deletes? with
  | none => exact (d.live_perform_of_keeps hc hd x).mp hx
  | some y =>
    rw [Objects.Live, stored?_perform_of_deletes hd] at hx
    split at hx
    · exact absurd rfl hx
    · exact hx

/-! ## Everything else -/

/-- No call changes the profile, the context or what the driver pretends. -/
theorem perform_eq (d : Driver) (c : Call) :
    d.perform c = { d with
      objects := (d.perform c).objects
      bindings := (d.perform c).bindings
      pipeline := (d.perform c).pipeline
      display := (d.perform c).display
      statistics := (d.perform c).statistics
      lastCopy := (d.perform c).lastCopy } := by
  have counted (b : Bool) :
      d.countDeleted b = { d with statistics := (d.countDeleted b).statistics } := by
    cases b <;> rfl
  cases c with
  | create what => cases what <;> rfl
  | copy source target planes filter =>
    rw [(painted_perform d rfl).eq]
  | clear planes => rw [(painted_perform d rfl).eq]
  | drawStrip streams count => rw [(painted_perform d rfl).eq]
  | textureImage target size => simp only [perform, textureImage]; split <;> rfl
  | attachTexture slot target id => simp only [perform, attach]; split <;> rfl
  | attachRenderbuffer slot id => simp only [perform, attach]; split <;> rfl
  | renderbufferStorage format samples size =>
    simp only [perform, renderbufferStorage]; split <;> rfl
  | deleteTexture id => simp only [perform, deleteTexture]; rw [counted]
  | deleteFramebuffer id => simp only [perform, deleteFramebuffer]; rw [counted]
  | deleteRenderbuffer id => simp only [perform, deleteRenderbuffer]; rw [counted]
  | deleteShader id => simp only [perform, deleteShader]; rw [counted]
  | deleteProgram id => simp only [perform, deleteProgram]; rw [counted]
  | uniformColor location value => simp only [perform, modifyProgram]; split <;> rfl
  | uniformInt location value => simp only [perform, modifyProgram]; split <;> rfl
  | _ => rfl

/-- The pipeline, the bindings and the display change through few calls only. -/
theorem unchanged_perform (d : Driver) (c : Call) :
    (c.setsPipeline = false → (d.perform c).pipeline = d.pipeline) ∧
      (c.setsBindings = false → (d.perform c).bindings = d.bindings) ∧
      (c.paints = false → (d.perform c).display = d.display) := by
  have counted (b : Bool) : (d.countDeleted b).pipeline = d.pipeline ∧
      (d.countDeleted b).display = d.display ∧ (d.countDeleted b).bindings = d.bindings := by
    cases b <;> exact ⟨rfl, rfl, rfl⟩
  have painted (h : c.paints = true) : (d.perform c).pipeline = d.pipeline ∧
      (d.perform c).bindings = d.bindings := by
    rw [(painted_perform d h).eq]
    exact ⟨rfl, rfl⟩
  cases c with
  | create what => cases what <;> exact ⟨fun _ => rfl, fun _ => rfl, fun _ => rfl⟩
  | copy source target planes filter =>
    exact ⟨fun _ => (painted rfl).1, fun _ => (painted rfl).2, nofun⟩
  | clear planes => exact ⟨fun _ => (painted rfl).1, fun _ => (painted rfl).2, nofun⟩
  | drawStrip streams count => exact ⟨fun _ => (painted rfl).1, fun _ => (painted rfl).2, nofun⟩
  | textureImage target size =>
    simp only [perform, textureImage]
    split <;> exact ⟨fun _ => rfl, fun _ => rfl, fun _ => rfl⟩
  | attachTexture slot target id =>
    simp only [perform, attach]
    split <;> exact ⟨fun _ => rfl, fun _ => rfl, fun _ => rfl⟩
  | attachRenderbuffer slot id =>
    simp only [perform, attach]
    split <;> exact ⟨fun _ => rfl, fun _ => rfl, fun _ => rfl⟩
  | renderbufferStorage format samples size =>
    simp only [perform, renderbufferStorage]
    split <;> exact ⟨fun _ => rfl, fun _ => rfl, fun _ => rfl⟩
  | deleteTexture id => exact ⟨fun _ => (counted _).1, nofun, fun _ => (counted _).2.1⟩
  | deleteFramebuffer id => exact ⟨fun _ => (counted _).1, nofun, fun _ => (counted _).2.1⟩
  | deleteRenderbuffer id => exact ⟨fun _ => (counted _).1, nofun, fun _ => (counted _).2.1⟩
  | deleteProgram id => exact ⟨fun _ => (counted _).1, nofun, fun _ => (counted _).2.1⟩
  | deleteShader id =>
    exact ⟨fun _ => (counted _).1, fun _ => (counted _).2.2, fun _ => (counted _).2.1⟩
  | uniformColor location value =>
    simp only [perform, modifyProgram]
    split <;> exact ⟨fun _ => rfl, fun _ => rfl, fun _ => rfl⟩
  | uniformInt location value =>
    simp only [perform, modifyProgram]
    split <;> exact ⟨fun _ => rfl, fun _ => rfl, fun _ => rfl⟩
  | _ =>
    refine ⟨fun h => ?_, fun h => ?_, fun h => ?_⟩ <;> first | rfl | cases h

theorem pipeline_perform (d : Driver) {c : Call} (h : c.setsPipeline = false) :
    (d.perform c).pipeline = d.pipeline := (d.unchanged_perform c).1 h

theorem bindings_perform (d : Driver) {c : Call} (h : c.setsBindings = false) :
    (d.perform c).bindings = d.bindings := (d.unchanged_perform c).2.1 h

/-- The bindings after a call are a matter of the bindings before it. -/
theorem bindings_perform_eq (d : Driver) (c : Call) :
    (d.perform c).bindings = c.rebind d.bindings := by
  cases c <;> first | rfl | exact bindings_perform d rfl

theorem program_perform (d : Driver) {c : Call} (h : c.setsProgram = false) :
    (d.perform c).bindings.program = d.bindings.program := by
  cases c with
  | bindTexture target id => cases target <;> rfl
  | bindFramebuffer target id => cases target <;> rfl
  | bindRenderbuffer id => rfl
  | deleteTexture id => rfl
  | deleteFramebuffer id => rfl
  | deleteRenderbuffer id => rfl
  | deleteProgram id => cases h
  | useProgram id => cases h
  | _ => rw [bindings_perform d rfl]

theorem framebuffers_perform (d : Driver) {c : Call} (h : c.setsFramebuffer = false) :
    (d.perform c).bindings.read = d.bindings.read ∧
      (d.perform c).bindings.draw = d.bindings.draw := by
  cases c with
  | bindTexture target id => cases target <;> exact ⟨rfl, rfl⟩
  | bindFramebuffer target id => cases h
  | deleteFramebuffer id => cases h
  | bindRenderbuffer id => exact ⟨rfl, rfl⟩
  | deleteTexture id => exact ⟨rfl, rfl⟩
  | deleteRenderbuffer id => exact ⟨rfl, rfl⟩
  | deleteProgram id => exact ⟨rfl, rfl⟩
  | useProgram id => exact ⟨rfl, rfl⟩
  | _ => rw [bindings_perform d rfl]; exact ⟨rfl, rfl⟩

theorem display_perform (d : Driver) {c : Call} (h : c.paints = false) :
    (d.perform c).display = d.display := (d.unchanged_perform c).2.2 h

theorem profile_perform (d : Driver) (c : Call) : (d.perform c).profile = d.profile := by
  rw [perform_eq]

theorem context_perform (d : Driver) (c : Call) : (d.perform c).context = d.context := by
  rw [perform_eq]

theorem contexts_perform (d : Driver) (c : Call) : (d.perform c).contexts = d.contexts := by
  rw [perform_eq]

theorem pretence_perform (d : Driver) (c : Call) : (d.perform c).pretence = d.pretence := by
  rw [perform_eq]

end Driver

end Compositor
