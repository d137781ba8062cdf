import ShaderSketch.Canvas.Saving
import ShaderSketch.Proofs.Attempt

/-!
# The life of a canvas

What can be done with a canvas, one thing after another, with anything happening to its surface in
between.

## Main definitions

* `Canvas.Step`, `Canvas.step`, `Canvas.steps` — one thing that is done, and many
* `Canvas.onto` — the canvas that every life starts with
* `Canvas.Attempted` — what an attempt does to a canvas that keeps a log

## Main results

* `Canvas.attempt_logged`, `Canvas.release_logged` : what the two operations that talk to the
  surface do to the canvas and its log
* `Canvas.steps_induction`, `Canvas.steps_surface_induction` : what one step keeps, every life keeps

## Design notes

A canvas is watched over a surface that keeps a log, which changes nothing
(`Routine.run_logged`).  All that is said of a canvas later is said of its log.
-/

namespace ShaderSketch.Canvas

open ShaderSketch.Frame Surface

variable {σ κ ℓ : Type}

/-! ## Steps -/

/-- What is done with a canvas, or happens to its surface. -/
inductive Step (κ : Type)
  | draw (source : String)
  | capture (source : String)
  | save (source : String) (path : Path) (files : Tree)
  | release
  | change (what : κ)

/-- The canvas after something happened to its surface. -/
def change (w : World σ κ ℓ) (what : κ) (c : Canvas σ) : Canvas σ :=
  { c with surface := w.happen what c.surface }

/-- The canvas after a step. -/
def step (w : World σ κ ℓ) (c : Canvas σ) : Step κ → Canvas σ
  | .draw source => (c.draw w.toSurface source).2
  | .capture source => (c.capture w.toSurface source).2
  | .save source path files => (c.saveAs w.toSurface source path files).2.1
  | .release => c.release w.toSurface
  | .change what => c.change w what

/-- The canvas after steps. -/
def steps (w : World σ κ ℓ) (c : Canvas σ) (life : List (Step κ)) : Canvas σ :=
  life.foldl (step w) c

/-- A new canvas on a surface, to which nothing was said yet. -/
def onto (x : σ) : Canvas (Logged σ ℓ) := { surface := ⟨x, []⟩ }

/-- The canvas without the log of its surface. -/
def unlogged (c : Canvas (Logged σ ℓ)) : Canvas σ := { c with surface := c.surface.state }

/-! ## What a step comes to -/

/-- Taking a picture is an attempt, or nothing on a surface without pixels. -/
theorem picture_canvas (s : Surface σ ℓ) (source : String) (c : Canvas σ) :
    (c.picture s source).2 =
      if (s.view c.surface).width = 0 ∨ (s.view c.surface).height = 0 then c
      else (c.attempt s source true).2 := by
  unfold picture capture
  dsimp only
  split
  · rfl
  · rcases c.attempt s source true with ⟨_ | pixels, c'⟩
    · rfl
    · dsimp only
      split <;> rfl

/-- Writing the picture to a file does nothing more to the canvas. -/
theorem saveAs_canvas (s : Surface σ ℓ) (source : String) (path : Path) (c : Canvas σ)
    (files : Tree) : (c.saveAs s source path files).2.1 = (c.picture s source).2 := by
  unfold saveAs
  rcases c.picture s source with ⟨_ | picture, c'⟩
  · rfl
  · dsimp only
    split <;> rfl

/-- Every step is an attempt, a release, a change of the surface, or nothing. -/
theorem step_cases (w : World σ κ ℓ) (c : Canvas σ) (t : Step κ) :
    (∃ source capture, c.step w t = (c.attempt w.toSurface source capture).2) ∨
      c.step w t = c.release w.toSurface ∨ (∃ what, c.step w t = c.change w what) ∨
      c.step w t = c := by
  cases t with
  | draw source => exact .inl ⟨source, false, rfl⟩
  | capture source => exact .inl ⟨source, true, rfl⟩
  | save source path files =>
      rw [step, saveAs_canvas, picture_canvas]
      split
      · exact .inr (.inr (.inr rfl))
      · exact .inl ⟨source, true, rfl⟩
  | release => exact .inr (.inl rfl)
  | change what => exact .inr (.inr (.inl ⟨what, rfl⟩))

/-- **What attempts, releases and changes keep, a whole life keeps.**  Saving, drawing and capturing
are attempts or nothing (`step_cases`), so that three laws are enough for five kinds of steps. -/
theorem steps_induction {w : World σ κ ℓ} {P : Canvas σ → Prop}
    (hattempt : ∀ c source capture, P c → P (c.attempt w.toSurface source capture).2)
    (hrelease : ∀ c, P c → P (c.release w.toSurface))
    (hchange : ∀ c what, P c → P (c.change w what)) {c : Canvas σ} (h : P c)
    (life : List (Step κ)) : P (c.steps w life) := by
  induction life generalizing c with
  | nil => exact h
  | cons t life ih =>
      refine ih ?_
      obtain ⟨source, capture, heq⟩ | heq | ⟨what, heq⟩ | heq := step_cases w c t
      · rw [heq]
        exact hattempt c source capture h
      · rw [heq]
        exact hrelease c h
      · rw [heq]
        exact hchange c what h
      · rw [heq]
        exact h

/-- **What every answer and every change keep of a surface, a whole life keeps.**  For what is known
of a driver this is easier to have: nothing needs to be known about attempts. -/
theorem steps_surface_induction {w : World σ κ ℓ} {P : σ → Prop}
    (hanswer : ∀ request x, P x → P (w.answer request x).2)
    (hhappen : ∀ what x, P x → P (w.happen what x)) {c : Canvas σ} (h : P c.surface)
    (life : List (Step κ)) : P (c.steps w life).surface := by
  refine steps_induction (P := fun c => P c.surface) ?_ ?_ ?_ h life
  · intro c source capture hc
    exact Routine.run_induction hanswer _ hc
  · intro c hc
    exact Routine.run_induction hanswer _ hc
  · intro c what hc
    exact hhappen what c.surface hc

/-- A surface that has a context has it as long as the canvas lives. -/
theorem hasContext_steps (w : World σ κ ℓ) {c : Canvas σ} (life : List (Step κ))
    (h : (w.view c.surface).hasContext) : (w.view (c.steps w life).surface).hasContext :=
  steps_surface_induction (P := fun x => (w.view x).hasContext) w.hasContext_answer
    w.hasContext_happen h life

/-! ## Attempts and releases on the log -/

/-- What an attempt does to a canvas: it says something, results in something, and counts the frame
if it was shown.  Every operation on a canvas is told in these terms, so that none of the later
proofs runs the routine of an attempt. -/
structure Attempted (s : Surface σ ℓ) (source : String) (capture : Bool) (c : Canvas (Logged σ ℓ))
    (said : List (Exchange ℓ)) (result : Except Failure Pixels) (c' : Canvas (Logged σ ℓ)) :
    Prop where
  conversation : Attempting (s.view c.surface.state) c.rectangle source capture said
    (result, c'.rectangle)
  log : c'.surface.log = c.surface.log ++ said
  frames : c'.frames = if result.isOk then c.frames + 1 else c.frames

/-- The canvas that comes of what the routine for an attempt results in. -/
def settle (frames : Nat) (x : (Except Failure Pixels × Option Gl.Handle) × σ) :
    Except Failure Pixels × Canvas σ :=
  (x.1.1,
    { surface := x.2, rectangle := x.1.2, frames := if x.1.1.isOk then frames + 1 else frames })

theorem attempt_eq (s : Surface σ ℓ) (source : String) (capture : Bool) (c : Canvas σ) :
    c.attempt s source capture = settle c.frames
      ((Frame.attempt (s.view c.surface) c.rectangle source capture).run s c.surface) :=
  rfl

/-- What is said to a surface during an attempt. -/
def said (s : Surface σ ℓ) (source : String) (capture : Bool) (c : Canvas σ) :
    List (Exchange ℓ) :=
  (Frame.attempt (s.view c.surface) c.rectangle source capture).said s c.surface

theorem attempting_said (s : Surface σ ℓ) (source : String) (capture : Bool) (c : Canvas σ) :
    Attempting (s.view c.surface) c.rectangle source capture (c.said s source capture)
      ((c.attempt s source capture).1, (c.attempt s source capture).2.rectangle) :=
  attempting_of_said (Routine.says_said s _ c.surface)

theorem attempt_logged (s : Surface σ ℓ) (source : String) (capture : Bool)
    (c : Canvas (Logged σ ℓ)) :
    ∃ said, Attempted s source capture c said (c.attempt s.logged source capture).1
      (c.attempt s.logged source capture).2 := by
  obtain ⟨said, hsaid, hrun⟩ := (Frame.attempt (s.logged.view c.surface) c.rectangle source
    capture).run_logged s c.surface
  rw [attempt_eq, hrun]
  exact ⟨said, attempting_of_said hsaid, rfl, rfl⟩

/-- An attempt is the same without a log. -/
theorem attempt_unlogged (s : Surface σ ℓ) (source : String) (capture : Bool)
    (c : Canvas (Logged σ ℓ)) :
    (c.attempt s.logged source capture).2.unlogged =
      (c.unlogged.attempt s source capture).2 := by
  obtain ⟨said, -, hrun⟩ := (Frame.attempt (s.logged.view c.surface) c.rectangle source
    capture).run_logged s c.surface
  rw [attempt_eq, hrun]
  rfl

/-- What is said to give a buffer back. -/
def returning (rectangle : Option Gl.Handle) : List (Exchange ℓ) :=
  rectangle.toList.map fun buffer => told (.deleteBuffer buffer) ()

theorem release_logged (s : Surface σ ℓ) (c : Canvas (Logged σ ℓ))
    (h : c.rectangle.isSome → (s.view c.surface.state).hasContext) :
    (c.release s.logged).rectangle = none ∧ (c.release s.logged).frames = c.frames ∧
      (c.release s.logged).surface.log = c.surface.log ++ returning c.rectangle := by
  refine ⟨rfl, rfl, ?_⟩
  obtain ⟨surface, _ | buffer, frames⟩ := c
  · simp [release, releaseRectangle, Routine.run, returning]
  · -- without the context the buffer would not be given back
    have hcontext : (s.logged.view surface).hasContext := h rfl
    rw [release, if_pos hcontext]
    rfl

/-- A release is the same without a log. -/
theorem release_unlogged (s : Surface σ ℓ) (c : Canvas (Logged σ ℓ)) :
    (c.release s.logged).unlogged = c.unlogged.release s := by
  have hrun (r : Routine ℓ Unit) (x : Logged σ ℓ) :
      (r.run s.logged x).2.state = (r.run s x.state).2 := by
    obtain ⟨said, -, hrun⟩ := r.run_logged s x
    rw [hrun]
  exact congrArg (Canvas.mk · none c.frames) (hrun _ _)

/-- **A log changes nothing**: a canvas lives the same life without it.  So what is proved with a
log is true without one, and the log is never a part of what is promised. -/
theorem unlogged_steps (w : World σ κ ℓ) (c : Canvas (Logged σ ℓ)) (life : List (Step κ)) :
    (c.steps w.logged life).unlogged = c.unlogged.steps w life := by
  induction life generalizing c with
  | nil => rfl
  | cons t life ih =>
      have hstep : (c.step w.logged t).unlogged = c.unlogged.step w t := by
        cases t with
        | draw source => exact attempt_unlogged w.toSurface source false c
        | capture source => exact attempt_unlogged w.toSurface source true c
        | save source path files =>
            -- the view is that of the same surface, so both canvases take the same branch
            simp only [step, saveAs_canvas, picture_canvas]
            rw [apply_ite unlogged]
            exact congrArg _ (attempt_unlogged w.toSurface source true c)
        | release => exact release_unlogged w.toSurface c
        | change what => rfl
      exact (ih _).trans (congrArg (steps w · life) hstep)

theorem steps_eq_unlogged (w : World σ κ ℓ) (x : σ) (life : List (Step κ)) :
    ({ surface := x } : Canvas σ).steps w life = ((onto x).steps w.logged life).unlogged :=
  (unlogged_steps w (onto x) life).symm

/-! ## Contexts -/

/-- A canvas that has the rectangle has a context to keep it in. -/
def Held (w : World σ κ ℓ) (c : Canvas σ) : Prop :=
  c.rectangle.isSome → (w.view c.surface).hasContext

theorem held_attempt (w : World σ κ ℓ) (source : String) (capture : Bool)
    (c : Canvas (Logged σ ℓ)) (h : Held w.logged c) :
    Held w.logged (c.attempt w.logged.toSurface source capture).2 := by
  intro hsome
  obtain ⟨said, hattempted⟩ := attempt_logged w.toSurface source capture c
  exact w.logged.hasContext_run _ (hattempted.conversation.hasContext_of_isSome h hsome)

end ShaderSketch.Canvas
