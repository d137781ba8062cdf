import ShaderSketch.Proofs.Counting
import ShaderSketch.Proofs.Handles
import ShaderSketch.Proofs.Tally

/-!
# Canvases keep their accounts

Whatever is done with a canvas, in any order, and however its driver fails, all that it leaves in
the context is the buffer with the rectangle, and that goes when the canvas does.

## Main definitions

* `Canvas.Accounted` — the invariant: what is live is the rectangle
* `Canvas.Balanced` — what the invariant comes to, for a canvas that may be dropped at any time

## Main results

`Canvas.handles_balance` : every life of a canvas is balanced on every driver that gives no live
handle out, and so on the context in memory, which has nothing left in its tables and has refused
nothing, and on the native one.
-/

namespace ShaderSketch.Canvas

open ShaderSketch.Frame Surface Gl

variable {σ κ ℓ : Type}

/-! ## The invariant -/

/-- As long as no live handle was given out, only live objects were named, and what is live is the
rectangle. -/
def Accounted (c : Canvas (Logged σ ℓ)) : Prop :=
  Ledger.Fresh {} c.surface.log →
    Ledger.Sound {} c.surface.log ∧ (Ledger.replay {} c.surface.log).live = quad c.rectangle

theorem accounted_attempt (s : Surface σ ℓ) (source : String) (capture : Bool)
    (c : Canvas (Logged σ ℓ)) (h : c.Accounted) :
    (c.attempt s.logged source capture).2.Accounted := by
  intro hfresh
  obtain ⟨said, hattempted⟩ := attempt_logged s source capture c
  rw [hattempted.log] at hfresh ⊢
  obtain ⟨hbefore, hsaid⟩ := Ledger.fresh_append.mp hfresh
  -- the attempt starts on a ledger that holds the rectangle at most
  obtain ⟨hsound, hlive⟩ := h hbefore
  obtain ⟨hsound', hlive'⟩ := hattempted.conversation.ledger hsaid hlive
  exact ⟨Ledger.sound_append.mpr ⟨hsound, hsound'⟩, Ledger.replay_append ▸ hlive'⟩

/-- Giving the rectangle back is sound and leaves nothing. -/
theorem returning_ledger {l : Ledger} {rectangle : Option Handle}
    (hlive : l.live = quad rectangle) :
    l.Sound (returning (ℓ := ℓ) rectangle) ∧
      (l.replay (returning (ℓ := ℓ) rectangle)).live = [] := by
  cases rectangle with
  | none => exact ⟨trivial, hlive⟩
  | some buffer => simp [returning, Ledger.after, Exchange.named, Exchange.draws, hlive, quad]

theorem accounted_release (s : Surface σ ℓ) (c : Canvas (Logged σ ℓ))
    (held : c.rectangle.isSome → (s.view c.surface.state).hasContext) (h : c.Accounted) :
    (c.release s.logged).Accounted := by
  intro hfresh
  obtain ⟨hrectangle, -, hlog⟩ := release_logged s c held
  rw [hlog] at hfresh ⊢
  obtain ⟨hsound, hlive⟩ := h (Ledger.fresh_append.mp hfresh).1
  obtain ⟨hsound', hlive'⟩ := returning_ledger (ℓ := ℓ) hlive
  rw [hrectangle, Ledger.replay_append]
  exact ⟨Ledger.sound_append.mpr ⟨hsound, hsound'⟩, hlive'⟩

/-- Every life of a canvas keeps its accounts, and keeps the context that its rectangle is in. -/
theorem accounted_steps (w : World σ κ ℓ) (x : σ) (life : List (Step κ)) :
    Held w.logged ((onto x).steps w.logged life) ∧ ((onto x).steps w.logged life).Accounted := by
  have hstart : Held w.logged (onto x) ∧ (onto (ℓ := ℓ) x).Accounted :=
    ⟨fun h => absurd h (by simp [onto]), fun _ => ⟨trivial, rfl⟩⟩
  refine steps_induction (P := fun c => Held w.logged c ∧ c.Accounted) ?_ ?_ ?_ hstart life
  · rintro c source capture ⟨held, haccounted⟩
    exact ⟨held_attempt w source capture c held,
      accounted_attempt w.toSurface source capture c haccounted⟩
  · rintro c ⟨held, haccounted⟩
    refine ⟨fun h => ?_, accounted_release w.toSurface c held haccounted⟩
    cases h
  · rintro c what ⟨held, haccounted⟩
    exact ⟨fun h => w.logged.hasContext_happen what _ (held h), haccounted⟩

/-! ## Balance -/

/-- What the accounts of a canvas come to.  Whenever a handle was given to the driver, it was the
handle of an object that was made before and not deleted since; what is left undeleted is the
rectangle; nothing was deleted twice, that is, not without having been made again in between; and
dropping the canvas leaves nothing.  Soundness has `once` as a consequence; it is spelled out over
the log, where it can be checked without a ledger. -/
structure Balanced (w : World σ κ ℓ) (c : Canvas (Logged σ ℓ)) : Prop where
  sound : Ledger.Sound {} c.surface.log
  live : (Ledger.replay {} c.surface.log).live = quad c.rectangle
  once : ∀ (before between rest : List (Exchange ℓ)) (e e' : Exchange ℓ) (o : Object),
    c.surface.log = before ++ e :: (between ++ e' :: rest) →
      e.deleted = some o → e'.deleted = some o → ∃ y ∈ between, y.made = some o
  dropped : Ledger.Sound {} (c.release w.toSurface.logged).surface.log ∧
    (Ledger.replay {} (c.release w.toSurface.logged).surface.log).live = []

theorem balanced_of_fresh (w : World σ κ ℓ) (x : σ) (life : List (Step κ))
    (fresh : Ledger.Fresh {} ((onto x).steps w.logged life).surface.log) :
    Balanced w ((onto x).steps w.logged life) := by
  obtain ⟨held, haccounted⟩ := accounted_steps w x life
  obtain ⟨hsound, hlive⟩ := haccounted fresh
  obtain ⟨-, -, hlog⟩ := release_logged w.toSurface _ held
  obtain ⟨hsound', hlive'⟩ := returning_ledger (ℓ := ℓ) hlive
  refine ⟨hsound, hlive, ?_, ?_⟩
  · intro before between rest e e' o hsplit he he'
    exact Ledger.Sound.made_between (hsplit ▸ hsound) he he'
  · rw [hlog, Ledger.replay_append]
    exact ⟨Ledger.sound_append.mpr ⟨hsound, hsound'⟩, hlive'⟩

/-! ## The context in memory -/

/-- The tables of a context in memory are in step with the ledger of what was said to it, and it
refused nothing. -/
def InStep (x : Logged MemorySurface.Directed String) : Prop :=
  Ledger.Sound {} x.log →
    x.state.surface.gl.Tallies (Ledger.replay {} x.log) ∧ x.state.surface.gl.refusals = 0

/-- Every answer, be it scripted or not, keeps the context and its ledger in step. -/
theorem inStep_answer (request : Request String) (x : Logged MemorySurface.Directed String)
    (h : InStep x) : InStep (MemorySurface.world.logged.answer request x).2 := by
  intro hsound
  have hlog : (MemorySurface.world.logged.answer request x).2.log =
      x.log ++ [⟨request, (MemorySurface.world.answer request x.state).1⟩] := rfl
  rw [hlog] at hsound ⊢
  obtain ⟨hbefore, ⟨hnamed, hdraws⟩, -⟩ := Ledger.sound_append.mp hsound
  obtain ⟨tally, hrefusals⟩ := h hbefore
  rw [Ledger.replay_append]
  cases request with
  | gl call =>
      obtain ⟨tally', hrefusals'⟩ := tally.answer x.state.script call hnamed hdraws
      exact ⟨tally', hrefusals'.trans hrefusals⟩
  | present =>
      have hgl : (MemorySurface.world.logged.answer .present x).2.state.surface.gl =
          x.state.surface.gl :=
        x.state.surface.present_gl
      rw [hgl]
      exact ⟨tally, hrefusals⟩

theorem inStep_happen (what : MemorySurface.Change) (x : Logged MemorySurface.Directed String)
    (h : InStep x) : InStep (MemorySurface.world.logged.happen what x) := by
  intro hsound
  obtain ⟨tally, hrefusals⟩ := h hsound
  cases what <;> exact ⟨⟨tally.shaders, tally.programs, tally.buffers, tally.current⟩, hrefusals⟩

/-- What is left in the tables of a context in memory, and that it never refused a handle.  A
context in memory counts for itself, so that these are its own numbers and not those of the ledger.
-/
structure Tidy (c : Canvas MemorySurface.Directed) : Prop where
  shaders : c.surface.surface.gl.shaders.size = 0
  programs : c.surface.surface.gl.programs.size = 0
  buffers : c.surface.surface.gl.buffers.size ≤ 1
  rectangle : c.surface.surface.gl.buffers.handles = c.rectangle.toList
  accepted : ∀ entry, Event.invalidHandle entry ∉ c.surface.surface.gl.events

/-- The handles of a ledger in which the rectangle is all that is live. -/
theorem handles_of_quad {l : Ledger} {rectangle : Option Handle} (h : l.live = quad rectangle) :
    l.handles .shader = [] ∧ l.handles .program = [] ∧ l.handles .buffer = rectangle.toList := by
  cases rectangle <;> simp [Ledger.handles, h, quad]

/-- Saving a picture draws at most, so that attempts and releases are all that can leave anything.
-/
theorem tidy_steps (d : MemorySurface.Directed) (h : d.surface.gl = {})
    (life : List (Step MemorySurface.Change)) :
    Tidy (({ surface := d } : Canvas _).steps MemorySurface.world life) := by
  have hbalanced := balanced_of_fresh MemorySurface.world d life (MemorySurface.counts.fresh d life)
  have hstart : InStep (onto d).surface := fun _ => ⟨Memory.tallies_start h, by rw [onto, h]; rfl⟩
  -- what the canvas said is sound, and so the tables followed the ledger all along
  obtain ⟨tally, hrefusals⟩ :=
    steps_surface_induction inStep_answer inStep_happen hstart life hbalanced.sound
  obtain ⟨hshaders, hprograms, hbuffers⟩ := handles_of_quad hbalanced.live
  rw [steps_eq_unlogged]
  refine ⟨?_, ?_, ?_, tally.buffers.trans hbuffers, fun entry hentry => ?_⟩
  · exact (Table.size_eq _).trans (congrArg List.length (tally.shaders.trans hshaders))
  · exact (Table.size_eq _).trans (congrArg List.length (tally.programs.trans hprograms))
  · have hsize := (Table.size_eq _).trans (congrArg List.length (tally.buffers.trans hbuffers))
    exact Nat.le_trans (Nat.le_of_eq hsize) Option.length_toList_le
  · exact List.countP_eq_zero.mp hrefusals _ hentry rfl

/-- **Canvases keep their accounts.**  Whatever is done with a canvas and whatever happens to its
surface, if no live handle was given out, the canvas is balanced.  The context in memory gives none
out, whatever its script; after every life of a canvas on it there are no shaders and no programs,
at most one buffer, and nothing was refused.  Nor does the native context.  To give a live handle
out again is the one thing that a driver must not do: two objects would go by one name, and to
delete the first would delete both.  All other answers are free, and every way to fail is among
them. -/
theorem handles_balance :
    (∀ {σ κ ℓ : Type} (w : World σ κ ℓ) (x : σ) (life : List (Step κ)),
      Ledger.Fresh {} ((onto x).steps w.logged life).surface.log →
        Balanced w ((onto x).steps w.logged life)) ∧
    (∀ (d : MemorySurface.Directed) (life : List (Step MemorySurface.Change)),
      d.surface.gl = {} →
        Balanced MemorySurface.world ((onto d).steps MemorySurface.world.logged life) ∧
        Tidy (({ surface := d } : Canvas _).steps MemorySurface.world life)) ∧
    ∀ (m : NativeSurface) (life : List (Step NativeSurface.Change)),
      Balanced NativeSurface.world ((onto m).steps NativeSurface.world.logged life) := by
  refine ⟨fun w x life fresh => balanced_of_fresh w x life fresh, ?_, ?_⟩
  · intro d life h
    exact ⟨balanced_of_fresh _ d life (MemorySurface.counts.fresh d life), tidy_steps d h life⟩
  · intro m life
    exact balanced_of_fresh _ m life (NativeSurface.counts.fresh m life)

/-- A life in which a source does not compile, a frame is not shown, programs run out, and the
rectangle is given back. -/
def troubledLife : List (Step MemorySurface.Change) :=
  [.draw "void main(", .change (.spoilNextFrame "lost"), .capture "void main() {}",
    .change .barPrograms, .draw "void main() {}", .release]

theorem handles_balance_troubled :
    Balanced MemorySurface.world
        ((onto MemorySurface.small).steps MemorySurface.world.logged troubledLife) ∧
      Tidy (({ surface := MemorySurface.small } : Canvas _).steps MemorySurface.world
        troubledLife) :=
  ⟨handles_balance.1 MemorySurface.world MemorySurface.small troubledLife
    (MemorySurface.counts.fresh MemorySurface.small troubledLife),
    (handles_balance.2.1 MemorySurface.small troubledLife rfl).2⟩

end ShaderSketch.Canvas
