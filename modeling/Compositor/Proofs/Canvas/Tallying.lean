import Compositor.Proofs.Buffer.Furnishing
import Compositor.Proofs.Canvas.Working
import Compositor.Proofs.Device.Counting
import Compositor.Proofs.Program.Crafting

/-!
# What a canvas counts

A canvas counts what it does, and the driver below it counts copies and draws. The two agree on
every operation: a resolve is one copy, and what counts as done is one draw. A draw that is asked
for counts once, as done or as left out, whichever way it ends.
-/

namespace Compositor

/-! ## Copies and draws of a driver -/

def Call.isCopy : Call → Bool
  | copy .. => true
  | _ => false

def Call.isDraw : Call → Bool
  | drawStrip .. => true
  | _ => false

/-- The driver got from `d` to `e` by so many copies and so many draws. -/
structure Driver.Renders (d e : Driver) (copies draws : Nat) : Prop where
  copies : e.statistics.copies = d.statistics.copies + copies
  draws : e.statistics.draws = d.statistics.draws + draws

theorem Driver.renders_perform (d : Driver) (c : Call) :
    d.Renders (d.perform c) c.isCopy.toNat c.isDraw.toNat := by
  constructor <;> rw [statistics_perform] <;> cases c with
  | create what => cases what <;> rfl
  | _ => rfl

namespace Device

/-- The device got from `d` to `e` by so many copies and so many draws. -/
def Renders (d e : Device) (copies draws : Nat) : Prop := d.driver.Renders e.driver copies draws

variable {d e f : Device} {m n m' n' : Nat}

theorem Renders.refl (d : Device) : d.Renders d 0 0 := ⟨rfl, rfl⟩

theorem Renders.trans (h : d.Renders e m n) (h' : e.Renders f m' n') :
    d.Renders f (m + m') (n + n') :=
  ⟨by rw [h'.copies, h.copies, Nat.add_assoc], by rw [h'.draws, h.draws, Nat.add_assoc]⟩

theorem renders_performAll (d : Device) (calls : List Call) :
    d.Renders (d.performAll calls) (calls.countP Call.isCopy) (calls.countP Call.isDraw) := by
  induction calls generalizing d with
  | nil => exact .refl d
  | cons c calls ih =>
    have hfirst : d.Renders (d.perform c) c.isCopy.toNat c.isDraw.toNat :=
      d.driver.renders_perform c
    have hrest := hfirst.trans (ih (d.perform c))
    rw [performAll_cons]
    refine ⟨hrest.copies.trans ?_, hrest.draws.trans ?_⟩
    · rw [List.countP_cons]
      cases c.isCopy <;> simp [Nat.add_comm]
    · rw [List.countP_cons]
      cases c.isDraw <;> simp [Nat.add_comm]

/-- Operations that take neither copies nor draws. -/
theorem Confined.renders {kind : Call → Prop} (h : d.Confined kind e)
    (hk : ∀ c, kind c → c.isCopy = false ∧ c.isDraw = false) : d.Renders e 0 0 := by
  refine h.keeps (P := fun v => d.driver.Renders v 0 0) (fun c hc v hv => ?_)
    (fun _ _ hv => ⟨hv.copies, hv.draws⟩) (Renders.refl d)
  obtain ⟨hcopy, hdraw⟩ := hk c hc
  have hcall := v.renders_perform c
  rw [hcopy, hdraw] at hcall
  exact ⟨hcall.copies.trans hv.copies, hcall.draws.trans hv.draws⟩

end Device

/-! ## What takes neither copies nor draws -/

theorem Backing.renders_ensure (b : Backing) (order : Order) (caps : Capabilities) (d : Device) :
    d.Renders (b.ensure order caps d).2.2 0 0 := by
  refine (b.confined_ensure order caps d).renders fun c hc => ?_
  cases c <;> first | exact ⟨rfl, rfl⟩ | cases hc

theorem Backing.renders_destroy (b : Backing) (d : Device) : d.Renders (b.destroy d).2 0 0 := by
  rw [device_destroy]
  cases b.set? with
  | none => exact .refl d
  | some set =>
    refine (confined_delete set d).renders fun c hc => ?_
    cases c <;> first | exact ⟨rfl, rfl⟩ | cases hc

theorem ProgramCache.renders_entry {c c' : ProgramCache} {purpose : Purpose} {context : Context}
    {d e : Device} {entry : CachedProgram} (h : c.entry purpose context d = (entry, c', e)) :
    d.Renders e 0 0 := by
  refine (confined_entry h).renders fun call hc => ?_
  have hcrafts := hc.1
  cases call <;> first | exact ⟨rfl, rfl⟩ | cases hcrafts

theorem ProgramCache.renders_deletions (programs : List BuiltProgram) (d : Device) :
    d.Renders (d.performAll (deletions programs)) 0 0 := by
  have hcalls := d.renders_performAll (deletions programs)
  have hdeletes : ∀ c ∈ deletions programs, c.isCopy = false ∧ c.isDraw = false := by
    intro c hc
    obtain ⟨program, -, hc⟩ := List.mem_flatMap.mp hc
    simp only [List.mem_cons, List.mem_nil_iff, or_false] at hc
    rcases hc with rfl | rfl | rfl <;> exact ⟨rfl, rfl⟩
  rwa [List.countP_eq_zero.mpr fun c hc => by rw [(hdeletes c hc).1]; exact Bool.false_ne_true,
    List.countP_eq_zero.mpr fun c hc => by rw [(hdeletes c hc).2]; exact Bool.false_ne_true]
    at hcalls

/-! ## Overlays -/

/-- The calls draw one strip and copy nothing. -/
def Call.DrawOnce (calls : List Call) : Prop :=
  calls.countP Call.isCopy = 0 ∧ calls.countP Call.isDraw = 1

theorem BuiltProgram.drawOnce_fillingCalls {p : BuiltProgram} {surface : Size} {color : Rgba}
    {region : Rect} {calls : List Call} (h : p.fillingCalls? surface color region = some calls) :
    Call.DrawOnce calls := by
  obtain ⟨location, streams, -, rfl⟩ := fillingCalls?_eq_some h
  exact ⟨rfl, rfl⟩

theorem BuiltProgram.drawOnce_texturingCalls {p : BuiltProgram} {surface : Size}
    {patch : TexturePatch} {calls : List Call} (h : p.texturingCalls? surface patch = some calls) :
    Call.DrawOnce calls := by
  obtain ⟨setup, streams, rfl | ⟨location, rfl⟩, -, rfl⟩ := texturingCalls?_eq_some h <;>
    exact ⟨rfl, rfl⟩

/-- Depth state is set around an overlay by calls that draw nothing. -/
theorem Device.renders_overlay (d : Device) {calls : List Call} (h : Call.DrawOnce calls) :
    d.Renders (d.overlay calls) 0 1 := by
  have hcalls := d.renders_performAll (Call.depthOff ++ calls ++ d.driver.pipeline.depthBack)
  have hback (p : Pipeline) :
      p.depthBack.countP Call.isCopy = 0 ∧ p.depthBack.countP Call.isDraw = 0 := by
    unfold Pipeline.depthBack
    cases p.depthTest <;> exact ⟨rfl, rfl⟩
  rw [← overlay_eq] at hcalls
  simp only [List.countP_append, h.1, h.2, hback] at hcalls
  exact hcalls

/-! ## Canvases -/

/-- The draws that count as done. -/
def CanvasStatistics.drawn (s : CanvasStatistics) : Nat := s.presents + s.fills + s.textureDraws

/-- One more draw was left out. -/
def CanvasStatistics.skip (s : CanvasStatistics) : CanvasStatistics :=
  { s with skipped := s.skipped + 1 }

namespace Canvas

/-- What was counted between the canvases `c` and `c'`: copies and draws, which the driver counts
too, and draws that were left out. -/
structure Tallies (c c' : Canvas) (copies draws skips : Nat) : Prop where
  device : c.device.Renders c'.device copies draws
  resolves : c'.statistics.resolves = c.statistics.resolves + copies
  drawn : c'.statistics.drawn = c.statistics.drawn + draws
  skipped : c'.statistics.skipped = c.statistics.skipped + skips

variable {c c' c'' : Canvas} {context : Context}

theorem Tallies.refl (c : Canvas) : c.Tallies c 0 0 0 := ⟨.refl _, rfl, rfl, rfl⟩

theorem Tallies.trans {m n k m' n' k' : Nat} (h : c.Tallies c' m n k)
    (h' : c'.Tallies c'' m' n' k') : c.Tallies c'' (m + m') (n + n') (k + k') where
  device := h.device.trans h'.device
  resolves := by rw [h'.resolves, h.resolves, Nat.add_assoc]
  drawn := by rw [h'.drawn, h.drawn, Nat.add_assoc]
  skipped := by rw [h'.skipped, h.skipped, Nat.add_assoc]

/-- The backing does not matter. -/
theorem Tallies.backed {m n k : Nat} (h : c.Tallies c' m n k) (b : Backing) :
    c.Tallies { c' with backing := b } m n k :=
  ⟨h.device, h.resolves, h.drawn, h.skipped⟩

/-- What neither copies nor draws and is not counted. -/
theorem tallies_of_renders (hs : c'.statistics = c.statistics)
    (h : c.device.Renders c'.device 0 0) : c.Tallies c' 0 0 0 := by
  refine ⟨h, ?_, ?_, ?_⟩ <;> rw [hs] <;> rfl

theorem tallies_performAll (c : Canvas) (calls : List Call)
    (h : calls.countP Call.isCopy = 0 ∧ calls.countP Call.isDraw = 0) :
    c.Tallies (c.performAll calls) 0 0 0 := by
  have hcalls := c.device.renders_performAll calls
  rw [h.1, h.2] at hcalls
  exact tallies_of_renders rfl hcalls

theorem tallies_ensure (c : Canvas) (order : Order) (caps : Capabilities) :
    c.Tallies (c.ensure order caps).2 0 0 0 :=
  tallies_of_renders rfl (c.backing.renders_ensure order caps c.device)

theorem tallies_destroy (c : Canvas) : c.Tallies c.destroy 0 0 0 :=
  tallies_of_renders rfl (c.backing.renders_destroy c.device)

theorem tallies_releasePrograms (c : Canvas) (context : Context) :
    c.Tallies (c.releasePrograms context) 0 0 0 := by
  refine tallies_of_renders rfl ?_
  rw [device_releasePrograms]
  exact ProgramCache.renders_deletions _ c.device

/-! ### Draws -/

/-- What is counted of a draw that was asked for, where `count` counts it as done. -/
structure Scores (c : Canvas) (count : CanvasStatistics → CanvasStatistics) (r : Bool × Canvas) :
    Prop where
  device : c.device.Renders r.2.device 0 r.1.toNat
  statistics : r.2.statistics = if r.1 then count c.statistics else c.statistics.skip

theorem scores_skip (c : Canvas) (count : CanvasStatistics → CanvasStatistics) :
    c.Scores count c.skip := ⟨.refl _, rfl⟩

theorem scores_draw {purpose : Purpose} {calls? : BuiltProgram → Option (List Call)}
    (hcalls : ∀ p calls, calls? p = some calls → Call.DrawOnce calls) :
    c.Scores id (c.draw purpose context calls?) := by
  obtain ⟨entry, programs, device, he, hcases⟩ := c.draw_cases purpose context calls?
  have hentry := ProgramCache.renders_entry he
  obtain ⟨-, hd⟩ | ⟨p, calls, -, hp, hd⟩ := hcases
  all_goals rw [hd]
  · exact ⟨hentry, rfl⟩
  · exact ⟨hentry.trans (device.renders_overlay (hcalls p calls hp)), rfl⟩

/-- Counting a draw if it is done. -/
theorem Scores.countDone {r : Bool × Canvas} (h : c.Scores id r)
    (count : CanvasStatistics → CanvasStatistics) : c.Scores count (Canvas.countDone count r) := by
  rcases r with ⟨_ | _, c'⟩
  · exact ⟨h.device, h.statistics⟩
  · exact ⟨h.device, congrArg count h.statistics⟩

theorem scores_fill (c : Canvas) (context : Context) (surface : Size) (color : Rgba)
    (region : Rect) :
    c.Scores (fun s => { s with fills := s.fills + 1 })
      (c.fill context surface color region) := by
  have hdraw : c.Scores id
      (c.draw .solid context fun p => p.fillingCalls? surface color region) :=
    scores_draw fun p calls => p.drawOnce_fillingCalls
  rw [fill_eq]
  split
  · exact c.scores_skip _
  · exact hdraw.countDone _

theorem scores_drawPatch (c : Canvas) (context : Context) (surface : Size) (patch : TexturePatch) :
    c.Scores id (c.drawPatch context surface patch) := by
  unfold drawPatch
  split
  · exact c.scores_skip id
  · exact scores_draw fun p calls => p.drawOnce_texturingCalls

theorem scores_drawTexture (c : Canvas) (context : Context) (surface : Size)
    (patch : TexturePatch) :
    c.Scores (fun s => { s with textureDraws := s.textureDraws + 1 })
      (c.drawTexture context surface patch) := by
  rw [drawTexture_eq]
  exact (c.scores_drawPatch context surface patch).countDone _

/-- The counts after a draw that was asked for: it is one of the draws, or it was left out. -/
theorem Scores.tallies {count : CanvasStatistics → CanvasStatistics} {r : Bool × Canvas}
    (h : c.Scores count r)
    (hcount : ∀ s, (count s).resolves = s.resolves ∧ (count s).drawn = s.drawn + 1 ∧
      (count s).skipped = s.skipped) :
    c.Tallies r.2 0 r.1.toNat (!r.1).toNat := by
  obtain ⟨hresolves, hdrawn, hskipped⟩ := hcount c.statistics
  obtain ⟨drawn, c'⟩ := r
  obtain ⟨hdevice, hstatistics⟩ := h
  dsimp only at hdevice hstatistics ⊢
  cases drawn with
  | false => refine ⟨hdevice, ?_, ?_, ?_⟩ <;> rw [hstatistics] <;> rfl
  | true =>
    refine ⟨hdevice, ?_, ?_, ?_⟩ <;> rw [hstatistics]
    · exact hresolves
    · exact hdrawn
    · exact hskipped

/-- What a draw answers says under what it was counted. -/
theorem Scores.answer {count : CanvasStatistics → CanvasStatistics} {r : Bool × Canvas}
    (h : c.Scores count r) {f : CanvasStatistics → Nat} (hcount : ∀ s, f (count s) = f s + 1)
    (hskip : ∀ s, f s.skip = f s) : r.1 = true ↔ f r.2.statistics = f c.statistics + 1 := by
  rw [h.statistics]
  cases r.1 with
  | false => simp [hskip]
  | true => simp [hcount]

/-! ### Frames -/

/-- A resolve is a copy. -/
theorem tallies_resolve (c : Canvas) (set : BufferSet) :
    ∃ copies, c.Tallies (c.resolve set) copies 0 0 := by
  unfold resolve
  cases set.multisample with
  | none => exact ⟨0, .refl c⟩
  | some m =>
    have hcalls := c.device.renders_performAll [.bindFramebuffer .read (some m.framebuffer),
      .bindFramebuffer .draw (some set.framebuffer),
      .copy (.ofSize set.layout.size.width set.layout.size.height)
        (.ofSize set.layout.size.width set.layout.size.height) .colorOnly .nearest]
    exact ⟨1, hcalls, rfl, rfl, rfl⟩

theorem tallies_beginFrame (c : Canvas) : c.Tallies c.beginFrame 0 0 0 := by
  unfold beginFrame
  split
  · exact .refl c
  · rename_i set hset
    exact (c.tallies_performAll [.bindFramebuffer .both (some set.target), .drawBuffer .color]
      ⟨rfl, rfl⟩).backed _

theorem tallies_readback (c : Canvas) : ∃ copies, c.Tallies c.readback.2 copies 0 0 := by
  cases hset : c.backing.set? with
  | none =>
    rw [readback_of_none hset]
    exact ⟨0, .refl c⟩
  | some set =>
    obtain ⟨copies, hresolve⟩ := c.tallies_resolve set
    have hread := (c.resolve set).tallies_performAll (opaqueCalls set) ⟨rfl, rfl⟩
    rw [readback_of_set hset]
    exact ⟨copies, (hresolve.trans hread).backed _⟩

/-- The end of a frame on a set asks for one draw, which shows the texture. -/
theorem tallies_endFrame (c : Canvas) (surface : Size) (context : Context) :
    ∃ copies draws skips, c.Tallies (c.endFrame surface context) copies draws skips ∧
      draws + skips = c.backing.set?.isSome.toNat := by
  cases hset : c.backing.set? with
  | none =>
    rw [endFrame_of_none hset]
    exact ⟨0, 0, 0, .refl c, rfl⟩
  | some set =>
    obtain ⟨copies, hresolve⟩ := c.tallies_resolve set
    have hprepared := hresolve.trans ((c.resolve set).tallies_performAll showingCalls ⟨rfl, rfl⟩)
    have hscores := (((c.resolve set).performAll showingCalls).scores_drawPatch context surface
      (.corner set.texture set.layout.size surface.width surface.height)).countDone
        fun s => { s with presents := s.presents + 1 }
    have hshown := hprepared.trans (hscores.tallies fun s =>
      ⟨rfl, by simp only [CanvasStatistics.drawn]; omega, rfl⟩)
    have hbind := (c.present set surface context).2.tallies_performAll
      [.bindFramebuffer .both (some set.framebuffer)] ⟨rfl, rfl⟩
    rw [endFrame_of_set hset]
    refine ⟨_, _, _, (hshown.trans hbind).backed _, ?_⟩
    cases (Canvas.countDone _ _).1 <;> rfl

/-- Reading a pixel is not counted. -/
theorem tallies_sample {α : Type} (c : Canvas) (surface : Size) (x y : Nat)
    {read : Device → Nat → Nat → α × Device}
    (hread : ∀ d row, ∃ call : Call, call.isCopy = false ∧ call.isDraw = false ∧
      (read d x row).2 = d.perform call) :
    c.Tallies (c.sample surface x y read).2 0 0 0 := by
  obtain hs | ⟨row, hs⟩ := c.sample_cases surface x y read
  all_goals rw [hs]
  · exact .refl c
  · obtain ⟨call, hcopy, hdraw, hd⟩ := hread c.device row
    have hcall : c.device.Renders (c.device.perform call) _ _ :=
      c.device.driver.renders_perform call
    rw [hcopy, hdraw, ← hd] at hcall
    exact tallies_of_renders rfl hcall

end Canvas

end Compositor
