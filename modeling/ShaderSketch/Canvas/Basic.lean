import ShaderSketch.Canvas.Frame

/-!
# Canvases

A canvas is a surface, the buffer with the rectangle while it has one, and the count of the frames
that it showed.

## Main definitions

* `Canvas` : the state
* `Canvas.attempt`, `Canvas.draw`, `Canvas.capture` : one attempt to draw a frame
* `Canvas.release` : gives the buffer back
-/

namespace ShaderSketch

/-- A surface of state `σ`, the buffer with the rectangle, and the count of frames shown. -/
structure Canvas (σ : Type) where
  surface : σ
  rectangle : Option Gl.Handle := none
  frames : Nat := 0

namespace Canvas

variable {σ ℓ : Type}

/-- One attempt to draw a source and show it; with `capture` it results in the pixels. -/
def attempt (s : Surface σ ℓ) (source : String) (capture : Bool) (c : Canvas σ) :
    Except Failure Frame.Pixels × Canvas σ :=
  let ((result, rectangle), surface) :=
    (Frame.attempt (s.view c.surface) c.rectangle source capture).run s c.surface
  (result, { surface, rectangle, frames := if result.isOk then c.frames + 1 else c.frames })

/-- Draws a source and shows it. -/
def draw (s : Surface σ ℓ) (source : String) (c : Canvas σ) :
    Except Failure Unit × Canvas σ :=
  let (result, c) := c.attempt s source false
  (result.map fun _ => (), c)

/-- Draws a source, reads the frame back, and shows it. -/
def capture (s : Surface σ ℓ) (source : String) (c : Canvas σ) :
    Except Failure Frame.Pixels × Canvas σ :=
  c.attempt s source true

/-- The routine that gives a buffer back. -/
def releaseRectangle : Option Gl.Handle → Routine ℓ Unit
  | some rectangle => .call (.deleteBuffer rectangle)
  | none => .done ()

/-- Gives the buffer back; the next attempt makes a new one. -/
def release (s : Surface σ ℓ) (c : Canvas σ) : Canvas σ :=
  let rectangle := if (s.view c.surface).hasContext then c.rectangle else none
  { c with surface := ((releaseRectangle rectangle).run s c.surface).2, rectangle := none }

end Canvas

end ShaderSketch
