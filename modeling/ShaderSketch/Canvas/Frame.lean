import ShaderSketch.Canvas.Routine
import ShaderSketch.Shader.Preamble
import ShaderSketch.Shader.Standard

/-!
# Frames

A frame is a fragment source drawn over a rectangle that fills the surface. Its shaders and its
program live for one attempt; the buffer with the rectangle stays.

## Main definitions

* `Frame.compiled`, `Frame.linked`, `Frame.assembled` : a program for a source
* `Frame.takeRectangle` : the buffer with the rectangle
* `Frame.attempt` : one attempt

## Design notes

Nothing is cleared, drawn or shown before both stages are compiled and linked and the buffer is
there, so an attempt that fails leaves the previous frame as it is.
-/

namespace ShaderSketch.Frame

open Routine

/-- The bytes of a frame from its bottom row on, four for each pixel. -/
abbrev Pixels := List UInt8

/-- The colour of a frame before anything is drawn. -/
def background : Gl.Color :=
  let zero := Binary.ofNat .single 0
  ⟨zero, zero, zero, Binary.ofNat .single 1⟩

/-- A shader compiled from a source; one that does not compile is deleted again. -/
def compiled {ℓ : Type} (stage : Gl.Stage) (source : String) :
    Routine ℓ (Except Canvas.Failure Gl.Handle) := do
  match ← call (.createShader stage) with
  | .error reason => return .error (.allocation (.shader stage) reason)
  | .ok shader =>
    call (.shaderSource shader source)
    call (.compileShader shader)
    if ← call (.compileStatus shader) then return .ok shader
    let log ← call (.shaderLog shader)
    call (.deleteShader shader)
    return .error (.compilation stage log)

/-- A program linked from two shaders; one that does not link is deleted again. -/
def linked {ℓ : Type} (vertex fragment : Gl.Handle) :
    Routine ℓ (Except Canvas.Failure Gl.Handle) := do
  match ← call .createProgram with
  | .error reason => return .error (.allocation .program reason)
  | .ok program =>
    call (.attachShader program vertex)
    call (.attachShader program fragment)
    call (.linkProgram program)
    call (.detachShader program vertex)
    call (.detachShader program fragment)
    if ← call (.linkStatus program) then return .ok program
    let log ← call (.programLog program)
    call (.deleteProgram program)
    return .error (.linking log)

/-- A program for a fragment source. Both shaders are deleted again, whatever comes of it. -/
def assembled {ℓ : Type} (source : String) : Routine ℓ (Except Canvas.Failure Gl.Handle) := do
  match ← compiled .vertex Shader.vertexSource with
  | .error e => return .error e
  | .ok vertex =>
    match ← compiled .fragment (Shader.prepare source) with
    | .error e =>
      call (.deleteShader vertex)
      return .error e
    | .ok fragment =>
      let result ← linked vertex fragment
      call (.deleteShader vertex)
      call (.deleteShader fragment)
      return result

/-- The buffer with the rectangle: the one at hand, or a new one. -/
def takeRectangle {ℓ : Type} : Option Gl.Handle → Routine ℓ (Except Canvas.Failure Gl.Handle)
  | some rectangle => return .ok rectangle
  | none => do
    match ← call .createBuffer with
    | .error reason => return .error (.allocation .rectangle reason)
    | .ok rectangle =>
      call (.uploadArrayBuffer rectangle Shader.cornerBytes)
      return .ok rectangle

/-- A length in pixels as graphics calls take it, a signed word. -/
def side (n : UInt32) : Int := n.toInt32.toInt

/-- Feeds the rectangle and the standard uniforms to a program, as far as it exposes them. -/
def bindInputs {ℓ : Type} (view : Surface.View) (program rectangle : Gl.Handle) :
    Routine ℓ Unit := do
  call (.useProgram (some program))
  call (.bindArrayBuffer (some rectangle))
  match ← call (.attribLocation program Shader.position) with
  | some position => call (.floatAttribPointer position Shader.cornerSize)
  | none => pure ()
  match ← call (.uniformLocation program Shader.resolution) with
  | some location =>
    call (.uniformVec2 location (Binary.ofNat .single view.width.toNat)
      (Binary.ofNat .single view.height.toNat))
  | none => pure ()
  match ← call (.uniformLocation program Shader.time) with
  | some location => call (.uniformFloat location view.seconds)
  | none => pure ()

/-- Clears the frame and draws the rectangle; with `capture`, the frame is read back. -/
def paint {ℓ : Type} (view : Surface.View) (capture : Bool) : Routine ℓ Pixels := do
  call (.viewport (side view.width) (side view.height))
  call (.clearColor background)
  call (.drawTriangleStrip 0 Shader.corners.length)
  if capture then call (.readRgba (side view.width) (side view.height)) else return []

/-- One attempt on a surface with a context: the pixels, which are none without `capture`, and the
buffer with the rectangle that is there afterwards. -/
def attemptOn {ℓ : Type} (view : Surface.View) (rectangle : Option Gl.Handle) (source : String)
    (capture : Bool) : Routine ℓ (Except Canvas.Failure Pixels × Option Gl.Handle) := do
  match ← assembled source with
  | .error e => return (.error e, rectangle)
  | .ok program =>
    match ← takeRectangle rectangle with
    | .error e =>
      call (.deleteProgram program)
      return (.error e, rectangle)
    | .ok rectangle =>
      bindInputs view program rectangle
      let pixels ← paint view capture
      call (.deleteProgram program)
      match ← present with
      | .error e => return (.error e, some rectangle)
      | .ok _ => return (.ok pixels, some rectangle)

/-- One attempt. -/
def attempt {ℓ : Type} (view : Surface.View) (rectangle : Option Gl.Handle) (source : String)
    (capture : Bool) : Routine ℓ (Except Canvas.Failure Pixels × Option Gl.Handle) :=
  if view.hasContext then attemptOn view rectangle source capture
  else return (.error .noContext, rectangle)

end ShaderSketch.Frame
