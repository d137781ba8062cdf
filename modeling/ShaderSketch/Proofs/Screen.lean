import Mathlib.Logic.Function.Basic
import ShaderSketch.Proofs.Atomicity

/-!
# What is on screen

What a conversation leaves on screen, by the rules of the graphics library: a fragment text is
compiled into a shader, linked into a program, drawn while that program is current, and shown.

## Main definitions

* `Gl.Scene`, `Gl.Scene.after`, `Gl.Scene.replay` — the text that goes along, from a shader to the
  screen
* `Gl.Scene.fragmentText?` — the text that a program is linked from
* `Canvas.screen`, `Canvas.Still` — the text on the screen of a canvas, and when nothing comes there

## Main results

* `Gl.Scene.shown_of_not_shows` : nothing comes on screen unless it is shown
* `Frame.Attempting.shown_of_ok` : after an attempt that succeeds, its own source is on screen, as
  it was prepared for the compiler
* `Canvas.screen_attempt`, `Canvas.still_attempt` : what that comes to for a canvas

## Design notes

A scene is about texts only; what is live is the business of the ledger.  The two meet where a
driver gives out the same handle twice, for then a program would be linked from the wrong text.
-/

namespace ShaderSketch

open Surface

variable {σ ℓ : Type}

namespace Gl

/-- How far the fragment texts have come: what each shader is for and holds, what it was compiled
from, which shaders each program has and what it was linked from, which program is current, what was
drawn last, and what is on screen.  It is kept by handles as a library keeps it, and goes by the
calls alone, so that nothing in it is what the canvas thinks is on screen. -/
structure Scene where
  stage : Handle → Stage := fun _ => .vertex
  source : Handle → String := fun _ => ""
  compiled : Handle → String := fun _ => ""
  attached : Handle → List Handle := fun _ => []
  linked : Handle → Option String := fun _ => none
  current : Option Handle := none
  drawn : Option String := none
  shown : Option String := none

namespace Scene

/-- The text that a program is linked from: that of the last fragment shader attached to it. -/
def fragmentText? (s : Scene) (program : Handle) : Option String :=
  ((s.attached program).filter (s.stage · = .fragment)).getLast?.map s.compiled

/-- The scene after an exchange. -/
def after (s : Scene) : Exchange ℓ → Scene
  | ⟨.gl (.createShader stage), .ok h⟩ => { s with stage := Function.update s.stage h stage }
  | ⟨.gl (.shaderSource h text), _⟩ => { s with source := Function.update s.source h text }
  | ⟨.gl (.compileShader h), _⟩ =>
    { s with compiled := Function.update s.compiled h (s.source h) }
  | ⟨.gl .createProgram, .ok p⟩ =>
    { s with
      attached := Function.update s.attached p []
      linked := Function.update s.linked p none }
  | ⟨.gl (.attachShader p h), _⟩ =>
    { s with attached := Function.update s.attached p (s.attached p ++ [h]) }
  | ⟨.gl (.detachShader p h), _⟩ =>
    { s with attached := Function.update s.attached p ((s.attached p).filter (· ≠ h)) }
  | ⟨.gl (.linkProgram p), _⟩ =>
    { s with linked := Function.update s.linked p (s.fragmentText? p) }
  | ⟨.gl (.useProgram program), _⟩ => { s with current := program }
  | ⟨.gl (.drawTriangleStrip _ _), _⟩ => { s with drawn := s.current.bind s.linked }
  | ⟨.present, .ok _⟩ => { s with shown := s.drawn }
  | _ => s

/-- The scene after a conversation. -/
def replay (s : Scene) (said : List (Exchange ℓ)) : Scene := said.foldl after s

theorem replay_append (s : Scene) (said said' : List (Exchange ℓ)) :
    s.replay (said ++ said') = (s.replay said).replay said' :=
  List.foldl_append

@[simp] theorem replay_nil (s : Scene) : s.replay ([] : List (Exchange ℓ)) = s := rfl

@[simp] theorem replay_cons (s : Scene) (e : Exchange ℓ) (said : List (Exchange ℓ)) :
    s.replay (e :: said) = (s.after e).replay said := rfl

/-- An exchange that shows nothing leaves on screen what is there. -/
theorem shown_after {s : Scene} {e : Exchange ℓ} (h : e.shows = false) :
    (s.after e).shown = s.shown := by
  obtain ⟨call | _, answer⟩ := e
  · cases call with
    | createShader stage => cases answer <;> rfl
    | createProgram => cases answer <;> rfl
    | _ => rfl
  · cases answer with
    | error e => rfl
    | ok _ => cases h

/-- **Nothing comes on screen unless it is shown.** -/
theorem shown_of_not_shows {s : Scene} {said : List (Exchange ℓ)}
    (h : said.countP Exchange.shows = 0) : (s.replay said).shown = s.shown := by
  induction said generalizing s with
  | nil => rfl
  | cons e said ih =>
      rw [List.countP_eq_zero, List.forall_mem_cons] at h
      rw [replay_cons, ih (List.countP_eq_zero.mpr h.2)]
      exact shown_after (by simpa using h.1)

end Scene

end Gl

/-! ## Attempts -/

namespace Frame

open Gl

variable {l : Ledger} {said : List (Exchange ℓ)}

/-- **What a program is linked from.**  A program that is made for a source is linked from that
source, as it was prepared for the compiler.  The two shaders are new, so that what was compiled for
them before cannot be what is linked. -/
theorem Assembling.linked {source : String} {program : Handle}
    (h : Assembling source said (.ok program)) (fresh : l.Fresh said) (s : Scene) :
    (s.replay said).linked program = some (Shader.prepare source) := by
  cases h with
  | @joined _ _ _ vertex fragment _ vertexStage fragmentStage link =>
      -- the fragment shader is not the vertex shader, which is still live when it is made
      obtain ⟨fresh₁, fresh⟩ := Ledger.fresh_append.mp fresh
      obtain ⟨-, replay₁⟩ := vertexStage.ledger fresh₁
      rw [replay₁] at fresh
      obtain ⟨fresh₂, -⟩ := Ledger.fresh_append.mp fresh
      obtain ⟨hne, -⟩ := Ledger.not_mem_of_not_mem_add (fragmentStage.fresh_of_ok fresh₂)
      have hdistinct : vertex ≠ fragment := by
        rintro rfl
        exact hne rfl
      cases vertexStage with
      | accepted =>
          cases fragmentStage with
          | accepted =>
              cases link with
              | accepted => simp [joining, Scene.after, Scene.fragmentText?, hdistinct]

theorem Holding.scene {rectangle : Option Handle} {buffer : Handle}
    (h : Holding rectangle said buffer) (s : Scene) : s.replay said = s := by
  cases h <;> rfl

/-- Feeding a program makes it current. -/
theorem scene_feeding (s : Scene) (view : View) (program buffer : Handle)
    (position : Option Nat) (resolution time : Option ℓ) :
    s.replay (feeding view program buffer position resolution time) =
      { s with current := some program } := by
  cases position <;> cases resolution <;> cases time <;> rfl

/-- Painting draws with the current program. -/
theorem Painting.scene {view : View} {capture : Bool} {pixels : Pixels}
    (h : Painting view capture said pixels) (s : Scene) :
    s.replay said = { s with drawn := s.current.bind s.linked } := by
  cases h <;> rfl

/-- **An attempt that succeeds brings its own source on screen**, as it was prepared for the
compiler.  Freshness is asked of the conversation, since a program with the handle of another would
be linked from two sources by this account. -/
theorem Attempting.shown_of_ok {view : View} {rectangle : Option Handle} {source : String}
    {capture : Bool} {outcome : Except Canvas.Failure Pixels × Option Handle} {pixels : Pixels}
    (h : Attempting view rectangle source capture said outcome) (hok : outcome.1 = .ok pixels)
    (fresh : l.Fresh said) (s : Scene) :
    (s.replay said).shown = some (Shader.prepare source) := by
  cases h with
  | noContext => cases hok
  | noProgram => cases hok
  | noRectangle => cases hok
  | @finished said' _ _ program _ _ _ assembled holding position resolution time painting shown =>
      cases shown with
      | error e => cases hok
      | ok _ =>
          have hlinked := assembled.linked (Ledger.fresh_append.mp fresh).1 s
          simp only [Scene.replay_append, holding.scene, scene_feeding, painting.scene]
          -- the frame that is shown was drawn with the program, which is deleted only afterwards
          change (some program).bind (s.replay said').linked = some (Shader.prepare source)
          exact hlinked

end Frame

/-! ## Canvases -/

namespace Canvas

/-- The fragment text that was compiled for the last frame shown, if there was one. -/
def screen (c : Canvas (Logged σ ℓ)) : Option String :=
  (Gl.Scene.replay {} c.surface.log).shown

/-- What is the same in a canvas when it was talked to and nothing came on screen.  The logs may
differ, since a call that fails is a call; nothing in them shows anything. -/
structure Still (c c' : Canvas (Logged σ ℓ)) : Prop where
  frames : c'.frames = c.frames
  said : ∃ said, c'.surface.log = c.surface.log ++ said ∧ said.countP Exchange.shows = 0

theorem Still.refl (c : Canvas (Logged σ ℓ)) : Still c c :=
  ⟨rfl, [], (List.append_nil _).symm, rfl⟩

theorem Still.shown {c c' : Canvas (Logged σ ℓ)} (h : Still c c') : c'.shown = c.shown := by
  obtain ⟨said, hlog, hnone⟩ := h.said
  rw [Canvas.shown, hlog, List.countP_append, hnone]
  rfl

theorem Still.screen {c c' : Canvas (Logged σ ℓ)} (h : Still c c') : c'.screen = c.screen := by
  obtain ⟨said, hlog, hnone⟩ := h.said
  rw [Canvas.screen, hlog, Gl.Scene.replay_append, Gl.Scene.shown_of_not_shows hnone]
  rfl

theorem Still.fresh {c c' : Canvas (Logged σ ℓ)} (h : Still c c')
    (fresh : Gl.Ledger.Fresh {} c'.surface.log) : Gl.Ledger.Fresh {} c.surface.log := by
  obtain ⟨said, hlog, -⟩ := h.said
  rw [hlog] at fresh
  exact (Gl.Ledger.fresh_append.mp fresh).1

/-- Giving the buffer back shows nothing. -/
theorem still_release (s : Surface σ ℓ) (c : Canvas (Logged σ ℓ)) :
    Still c (c.release s.logged) := by
  refine ⟨rfl, ?_⟩
  obtain ⟨said, hsaid, hrun⟩ := (releaseRectangle (ℓ := ℓ)
    (if (s.logged.view c.surface).hasContext then c.rectangle else none)).run_logged s c.surface
  refine ⟨said, ?_, ?_⟩
  · rw [release, hrun]
  · revert hsaid
    generalize (if (s.logged.view c.surface).hasContext then c.rectangle else none) = rectangle
    intro hsaid
    cases rectangle with
    | none =>
        obtain ⟨rfl, -⟩ := Routine.says_done.mp hsaid
        rfl
    | some buffer =>
        obtain rfl := Routine.says_call.mp hsaid
        rfl

/-- An attempt that fails shows nothing. -/
theorem still_attempt {s : Surface σ ℓ} {source : String} {capture : Bool}
    {c : Canvas (Logged σ ℓ)} (h : (c.attempt s.logged source capture).1.isOk = false) :
    Still c (c.attempt s.logged source capture).2 := by
  obtain ⟨said, hattempted⟩ := attempt_logged s source capture c
  refine ⟨by simp [hattempted.frames, h], said, hattempted.log, ?_⟩
  simp [hattempted.conversation.shows, h]

/-- An attempt that succeeds shows one frame, for which its own source was compiled. -/
theorem screen_attempt {s : Surface σ ℓ} {source : String} {capture : Bool}
    {c : Canvas (Logged σ ℓ)} (h : (c.attempt s.logged source capture).1.isOk) :
    let c' := (c.attempt s.logged source capture).2
    c'.frames = c.frames + 1 ∧ c'.shown = c.shown + 1 ∧
      (Gl.Ledger.Fresh {} c'.surface.log → c'.screen = some (Shader.prepare source)) := by
  intro c'
  obtain ⟨said, hattempted⟩ := attempt_logged s source capture c
  refine ⟨by simp [c', hattempted.frames, h], ?_, ?_⟩
  · rw [Canvas.shown, hattempted.log, List.countP_append, hattempted.conversation.shows, if_pos h]
    rfl
  · intro fresh
    cases hresult : (c.attempt s.logged source capture).1 with
    | error e =>
        rw [hresult] at h
        cases h
    | ok pixels =>
        rw [hattempted.log] at fresh
        rw [Canvas.screen, hattempted.log, Gl.Scene.replay_append]
        exact hattempted.conversation.shown_of_ok hresult (Gl.Ledger.fresh_append.mp fresh).2 _

end Canvas

end ShaderSketch
