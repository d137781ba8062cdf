import ShaderSketch.Proofs.Backends

/-!
# Two canvases side by side

A canvas in memory and one over a native library are given the same errands.  If the library answers
in each errand as the context in memory does, then both come to the same, and the library is told
what the context in memory is told.

## Main definitions

* `Surface.Window` — a surface in a window, and with a clock
* `Canvas.Errand`, `Canvas.errand`, `Canvas.errandSaid` — what is done with a canvas, what it comes
  to, and what is said to the surface
* `Canvas.after`, `Canvas.afterScripts` — the canvas after errands
* `Canvas.Paired` — two canvases that agree on everything but names
* `Canvas.Echoes` — what an errand has in common on both
* `Canvas.faithful` — whether a library answers as the context in memory does

## Main results

* `Canvas.Paired.errand` : what one errand keeps
* `Canvas.same_pipeline` : both canvases come to the same, errand by errand
* `Canvas.exists_faithful` : there is such a library for any errands

## Design notes

What was said in memory does not depend on the scripts, so it can be asked of a script whether it
has the answers.
-/

namespace ShaderSketch

open Surface Gl

variable {σ ℓ : Type}

/-! ## Windows -/

/-- A surface in a window, which can be given another size, and with a clock, which goes on. -/
structure Surface.Window (σ ℓ : Type) extends Surface σ ℓ where
  resize : UInt32 → UInt32 → σ → σ
  wait : Binary → σ → σ

/-- The surface in memory as a window. -/
def MemorySurface.window : Window MemorySurface String where
  toSurface := plain
  resize width height x := x.resize width height
  wait seconds x := { x with seconds }

/-- The native surface as a window. -/
def NativeSurface.window : Window NativeSurface Int where
  toSurface := recorded
  resize width height m := m.resize width height
  wait seconds m := { m with seconds }

namespace Canvas

open ShaderSketch.Frame

/-! ## Errands -/

/-- What is done with a canvas, or with the window around it. -/
inductive Errand
  | draw (source : String)
  | capture (source : String)
  | release
  | resize (width height : UInt32)
  | wait (seconds : Binary)
  deriving Repr, DecidableEq

/-- What an errand comes to: its result, without the bytes of a frame, and the canvas afterwards. -/
def errand (w : Window σ ℓ) (c : Canvas σ) : Errand → Except Failure Unit × Canvas σ
  | .draw source => c.draw w.toSurface source
  | .capture source =>
    let (result, c) := c.capture w.toSurface source
    (result.map fun _ => (), c)
  | .release => (.ok (), c.release w.toSurface)
  | .resize width height => (.ok (), { c with surface := w.resize width height c.surface })
  | .wait seconds => (.ok (), { c with surface := w.wait seconds c.surface })

/-- What is said to the surface during an errand. -/
def errandSaid (w : Window σ ℓ) (c : Canvas σ) : Errand → List (Exchange ℓ)
  | .draw source => c.said w.toSurface source false
  | .capture source => c.said w.toSurface source true
  | .release =>
    let rectangle := if (w.view c.surface).hasContext then c.rectangle else none
    (releaseRectangle rectangle).said w.toSurface c.surface
  | .resize _ _ | .wait _ => []

/-- The canvas after errands. -/
def after (w : Window σ ℓ) (c : Canvas σ) (errands : List Errand) : Canvas σ :=
  errands.foldl (fun c t => (c.errand w t).2) c

/-- The canvas over a library that answers by another script from now on. -/
def direct (d : Canvas NativeSurface) (script : Native.Script) : Canvas NativeSurface :=
  d.change NativeSurface.world (.direct script)

/-- The canvas over a native library after errands, with a script for each. -/
def afterScripts (d : Canvas NativeSurface) (life : List (Errand × Native.Script)) :
    Canvas NativeSurface :=
  life.foldl (fun d p => ((d.direct p.2).errand NativeSurface.window p.1).2) d

/-- Whether the scripts for some errands have the answers that are given in memory in the same
errand.  It is read off the conversation in memory alone and asks nothing of what the library did,
so that it can be computed for any errands. -/
def faithful : Canvas MemorySurface → List (Errand × Native.Script) → Bool
  | _, [] => true
  | c, (t, script) :: life =>
    script.repeats [] (c.errandSaid MemorySurface.window t) &&
      faithful (c.errand MemorySurface.window t).2 life

/-! ## Canvases that agree -/

/-- Two canvases that agree: their surfaces do, and they have the same rectangle and the same count
of frames.  The two number their objects apart: the library was used before, and `shift` is how far
it is ahead. -/
structure Paired (shift : Nat) (c : Canvas MemorySurface) (d : Canvas NativeSurface) : Prop where
  surface : MemorySurface.Paired shift c.surface d.surface
  rectangle : d.rectangle = c.rectangle.map (· + shift)
  frames : d.frames = c.frames

/-- What an errand adds to what a library was told. -/
def Adds (d : Canvas NativeSurface) (commands : List Command) (d' : Canvas NativeSurface) : Prop :=
  d'.surface.gl.commands = d.surface.gl.commands ++ commands

variable {n : Renaming} {c : Canvas MemorySurface} {d : Canvas NativeSurface}

/-- A result is one whatever is made of it. -/
theorem isOk_map {ε α β : Type} (x : Except ε α) (f : α → β) : (x.map f).isOk = x.isOk := by
  cases x <;> rfl

/-- An attempt comes to the same on two canvases that agree. -/
theorem Paired.attempt (h : Paired n.shift c d) (place : n.place = d.surface.gl.script.uniforms)
    (source : String) (capture : Bool)
    (repeats : d.surface.gl.script.repeats [] (c.said MemorySurface.plain source capture)) :
    ((d.attempt NativeSurface.recorded source capture).1.map fun _ => ()) =
        ((c.attempt MemorySurface.plain source capture).1.map fun _ => ()) ∧
      Paired n.shift (c.attempt MemorySurface.plain source capture).2
        (d.attempt NativeSurface.recorded source capture).2 ∧
      d.Adds ((c.said MemorySurface.plain source capture).flatMap fun e => (n.exchange e).commands)
        (d.attempt NativeSurface.recorded source capture).2 := by
  have htwin : Routine.Twin n (SameOutcome n)
      (Frame.attempt (MemorySurface.plain.view c.surface) c.rectangle source capture)
      (Frame.attempt (NativeSurface.recorded.view d.surface) d.rectangle source capture) := by
    rw [h.surface.view, h.rectangle]
    exact twin_attempt n _ c.rectangle source capture
  obtain ⟨⟨hresult, hrectangle⟩, hsurface, htold⟩ :=
    htwin.run h.surface place (.nil _ _) repeats
  refine ⟨hresult, ⟨hsurface, hrectangle, ?_⟩, ?_⟩
  · -- both count the frame, or neither does
    have hshown := congrArg Except.isOk hresult
    rw [isOk_map, isOk_map] at hshown
    rw [attempt_eq, attempt_eq, settle, settle]
    dsimp only
    rw [hshown, h.frames]
  · exact (NativeSurface.heard_said _ d.surface).commands.trans (congrArg _ htold)

/-- Giving a buffer back is alike on both drivers. -/
theorem twin_releaseRectangle (n : Renaming) (rectangle : Option Handle) :
    Routine.Twin n (fun _ _ => True) (releaseRectangle rectangle)
      (releaseRectangle (rectangle.map n.handle)) := by
  cases rectangle with
  | none => exact .done trivial
  | some buffer => exact .ask fun _ _ _ => .done trivial

/-- Giving the buffer back comes to the same on two canvases that agree. -/
theorem Paired.release (h : Paired n.shift c d) (place : n.place = d.surface.gl.script.uniforms)
    (repeats : d.surface.gl.script.repeats [] (c.errandSaid MemorySurface.window .release)) :
    Paired n.shift (c.release MemorySurface.plain) (d.release NativeSurface.recorded) ∧
      d.Adds ((c.errandSaid MemorySurface.window .release).flatMap fun e =>
        (n.exchange e).commands) (d.release NativeSurface.recorded) := by
  have hcontext : (MemorySurface.plain.view c.surface).hasContext := h.surface.unhindered.context
  have htwin : Routine.Twin n (fun _ _ => True)
      (releaseRectangle (if (MemorySurface.plain.view c.surface).hasContext then c.rectangle
        else none))
      (releaseRectangle (if (NativeSurface.recorded.view d.surface).hasContext then d.rectangle
        else none)) := by
    rw [h.surface.view, if_pos hcontext, if_pos hcontext, h.rectangle]
    exact twin_releaseRectangle n c.rectangle
  obtain ⟨-, hsurface, htold⟩ := htwin.run h.surface place (.nil _ _) repeats
  exact ⟨⟨hsurface, rfl, h.frames⟩,
    (NativeSurface.heard_said _ d.surface).commands.trans (congrArg _ htold)⟩

/-- **One errand comes to the same on two canvases that agree**, if the library answers as the
context in memory does. -/
theorem Paired.errand (h : Paired n.shift c d) (place : n.place = d.surface.gl.script.uniforms)
    (t : Errand)
    (repeats : d.surface.gl.script.repeats [] (c.errandSaid MemorySurface.window t)) :
    (d.errand NativeSurface.window t).1 = (c.errand MemorySurface.window t).1 ∧
      Paired n.shift (c.errand MemorySurface.window t).2 (d.errand NativeSurface.window t).2 ∧
      d.Adds ((c.errandSaid MemorySurface.window t).flatMap fun e => (n.exchange e).commands)
        (d.errand NativeSurface.window t).2 := by
  have hnothing : d.surface.gl.commands = d.surface.gl.commands ++ [] := (List.append_nil _).symm
  cases t with
  | draw source => exact h.attempt place source false repeats
  | capture source => exact h.attempt place source true repeats
  | release => exact ⟨rfl, h.release place repeats⟩
  | resize width height =>
      exact ⟨rfl, ⟨h.surface.resize width height, h.rectangle, h.frames⟩, hnothing⟩
  | wait seconds => exact ⟨rfl, ⟨h.surface.wait seconds, h.rectangle, h.frames⟩, hnothing⟩

/-! ## Whole lives -/

/-- What an errand over a native library has in common with the same errand in memory: the result,
the count of frames afterwards, and what the library is told.  A frame is counted in memory for each
mark in that.  The bytes that are read back are not among these: a library is free to answer with
other pixels. -/
structure Echoes (n : Renaming) (c : Canvas MemorySurface) (d : Canvas NativeSurface) (t : Errand) :
    Prop where
  result : (d.errand NativeSurface.window t).1 = (c.errand MemorySurface.window t).1
  frames : (d.errand NativeSurface.window t).2.frames = (c.errand MemorySurface.window t).2.frames
  commands : d.Adds
    ((c.errandSaid MemorySurface.window t).flatMap fun e => (n.exchange e).commands)
    (d.errand NativeSurface.window t).2
  shown : (c.errand MemorySurface.window t).2.surface.shown =
    c.surface.shown + (c.errandSaid MemorySurface.window t).countP Exchange.shows
  marks : ∀ e ∈ c.errandSaid MemorySurface.window t, .present ∈ (n.exchange e).commands ↔ e.shows

theorem shown_errand (c : Canvas MemorySurface) (t : Errand) :
    (c.errand MemorySurface.window t).2.surface.shown =
      c.surface.shown + (c.errandSaid MemorySurface.window t).countP Exchange.shows := by
  cases t with
  | draw | capture | release => exact MemorySurface.shown_run _ c.surface
  | resize | wait => rfl

theorem marks_errand (n : Renaming) {c : Canvas MemorySurface} (h : c.surface.Unhindered)
    (t : Errand) : ∀ e ∈ c.errandSaid MemorySurface.window t,
      .present ∈ (n.exchange e).commands ↔ e.shows := by
  cases t with
  | draw | capture | release => exact h.marks n _
  | resize | wait => exact List.forall_mem_nil _

theorem Paired.direct {shift : Nat} (h : Paired shift c d) (script : Native.Script) :
    Paired shift c (d.direct script) :=
  ⟨h.surface.direct script, h.rectangle, h.frames⟩

/-- A library that has the answers for errands has them for the first of them, and for the rest. -/
theorem faithful_append (c : Canvas MemorySurface) (life life' : List (Errand × Native.Script)) :
    c.faithful (life ++ life') =
      (c.faithful life && (c.after MemorySurface.window (life.map Prod.fst)).faithful life') := by
  induction life generalizing c with
  | nil => rfl
  | cons p life ih =>
      show (_ && faithful _ (life ++ life')) = _
      rw [ih, ← Bool.and_assoc]
      rfl

/-- **Two canvases that agree still agree after errands**, if the library answers as the context in
memory does. -/
theorem Paired.afterScripts {shift : Nat} (h : Paired shift c d)
    (life : List (Errand × Native.Script)) (hfaithful : c.faithful life) :
    Paired shift (c.after MemorySurface.window (life.map Prod.fst)) (d.afterScripts life) := by
  induction life generalizing c d with
  | nil => exact h
  | cons p life ih =>
      obtain ⟨t, script⟩ := p
      obtain ⟨repeats, hfaithful⟩ := Bool.and_eq_true_iff.mp hfaithful
      -- each script has its own numbers for places
      let n : Renaming := ⟨shift, script.uniforms⟩
      have hdirected : Paired n.shift c (d.direct script) := h.direct script
      obtain ⟨-, hpaired, -⟩ := hdirected.errand rfl t repeats
      exact ih hpaired hfaithful

/-- **Both surfaces run one pipeline.**  Take a new canvas in memory, where nothing is going to
fail, and one over a native library that was used for anything before, of the same size and with the
same clock.  Take any errands, and for each of them a script with the answers that are given in
memory in the same errand.  Then in every errand both come to the same result, apart from the bytes
that are read back, and to the same count of frames.  The library is told the commands that what is
said in memory comes to, with handles a fixed number further on, and is told to show a frame just
where the surface in memory counts one. -/
theorem same_pipeline (width height : UInt32) (seconds : Binary) (gl : Native)
    (life : List (Errand × Native.Script)) (t : Errand) (script : Native.Script)
    (rest : List (Errand × Native.Script))
    (hfaithful : faithful { surface := { width, height, seconds } }
      (life ++ (t, script) :: rest)) :
    let c : Canvas MemorySurface := { surface := { width, height, seconds } }
    let d : Canvas NativeSurface := { surface := { width, height, gl, seconds } }
    Echoes ⟨gl.issued, script.uniforms⟩ (c.after MemorySurface.window (life.map Prod.fst))
      ((d.afterScripts life).direct script) t := by
  intro c d
  have hstart : Paired gl.issued c d :=
    ⟨⟨rfl, ⟨rfl, ⟨rfl, rfl, rfl⟩, rfl⟩, (Nat.zero_add _).symm⟩, rfl, rfl⟩
  rw [faithful_append] at hfaithful
  obtain ⟨hbefore, hfaithful⟩ := Bool.and_eq_true_iff.mp hfaithful
  obtain ⟨repeats, -⟩ := Bool.and_eq_true_iff.mp hfaithful
  let n : Renaming := ⟨gl.issued, script.uniforms⟩
  have hpaired : Paired n.shift (c.after MemorySurface.window (life.map Prod.fst))
      ((d.afterScripts life).direct script) :=
    (hstart.afterScripts life hbefore).direct script
  obtain ⟨hresult, hafter, hcommands⟩ := hpaired.errand rfl t repeats
  exact ⟨hresult, hafter.frames, hcommands, shown_errand _ t,
    marks_errand n hpaired.surface.unhindered t⟩

/-- A source that asks for the seconds. -/
def timed : String := "uniform float u_time;\nvoid main() \x7b\x7d"

/-- A library that has a place for the rectangle and one for the seconds. -/
def placed : Native.Script where
  attribs _ := 0
  uniforms name := if name = Shader.time then 7 else -1

/-- A library that refuses a source for want of a bracket. -/
def unwilling : Native.Script where
  compileStatus
    | .vertex => 1
    | .fragment => 0
  compileLog _ := "ERROR: 0:5: '' : syntax error: unexpected end of file"

/-- A frame, a source that is refused, a release, and another size and a later time. -/
def varied : List (Errand × Native.Script) :=
  [(.draw timed, placed), (.draw "void main() \x7b", unwilling), (.release, {}),
    (.resize 4 2, {}), (.wait (Binary.ofNat .single 3), {})]

/-- After all that both canvases capture the same frame. -/
theorem same_pipeline_varied :
    faithful { surface := { width := 2, height := 2 } } (varied ++ [(.capture timed, placed)]) ∧
      Echoes ⟨5, placed.uniforms⟩
        (({ surface := { width := 2, height := 2 } } : Canvas MemorySurface).after
          MemorySurface.window (varied.map Prod.fst))
        ((({ surface := { width := 2, height := 2, gl := { issued := 5 } } } :
          Canvas NativeSurface).afterScripts varied).direct placed)
        (.capture timed) := by
  have hfaithful : faithful { surface := { width := 2, height := 2 } }
      (varied ++ [(.capture timed, placed)]) := by decide +kernel
  exact ⟨hfaithful, same_pipeline 2 2 (Binary.ofNat .single 0) { issued := 5 } varied
    (.capture timed) placed [] hfaithful⟩

/-- Any errand in memory can be run over a native library. -/
theorem exists_script (c : Canvas MemorySurface) (t : Errand) :
    ∃ script : Native.Script, script.Knows (c.errandSaid MemorySurface.window t) := by
  cases t with
  | draw source => exact (attempting_said MemorySurface.plain source false c).exists_script
  | capture source => exact (attempting_said MemorySurface.plain source true c).exists_script
  | release =>
      have hknows (rectangle : Option Handle) : ({} : Native.Script).Knows
          ((releaseRectangle rectangle).said MemorySurface.plain c.surface) := by
        cases rectangle <;> exact fun _ => rfl
      exact ⟨{}, hknows _⟩
  | resize | wait => exact ⟨{}, fun _ => rfl⟩

/-- **Any errands can be run over a native library that answers as the context in memory does.**  So
the condition on scripts never rules out an errand, whatever was done before. -/
theorem exists_faithful (c : Canvas MemorySurface) (errands : List Errand) :
    ∃ life : List (Errand × Native.Script), life.map Prod.fst = errands ∧ c.faithful life := by
  induction errands generalizing c with
  | nil => exact ⟨[], rfl, rfl⟩
  | cons t errands ih =>
      obtain ⟨script, hknows⟩ := exists_script c t
      obtain ⟨life, rfl, hfaithful⟩ := ih (c.errand MemorySurface.window t).2
      exact ⟨(t, script) :: life, rfl, Bool.and_eq_true_iff.mpr ⟨hknows [], hfaithful⟩⟩

end Canvas

end ShaderSketch
