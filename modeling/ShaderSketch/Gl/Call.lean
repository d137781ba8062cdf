import ShaderSketch.Number.Binary

/-!
# Graphics calls

What a program may ask of a graphics context: the handful of calls that compile two shader stages,
link them and draw a frame.

## Main definitions

* `Gl.Stage` : the two programmable stages
* `Gl.Handle` : the number that names a shader, a program or a buffer
* `Gl.Color` : a colour of four channels
* `Gl.Call` : the calls
* `Gl.Call.Answer` : what a context answers to a call
* `Gl.Driver` : a context, by its answers

## Design notes

A context decides how it names the place of a uniform, so calls are parameterised by that type. A
driver is nothing but the function from calls and states to answers and states; whatever a context
does is some driver.
-/

namespace ShaderSketch.Gl

/-- The two programmable stages. -/
inductive Stage
  | vertex
  | fragment
  deriving Repr, DecidableEq

/-- The name of a stage. -/
def Stage.name : Stage → String
  | .vertex => "vertex"
  | .fragment => "fragment"

/-- The number that names a shader, a program or a buffer. -/
abbrev Handle := Nat

/-- A colour of four channels. -/
structure Color where
  red : Binary
  green : Binary
  blue : Binary
  alpha : Binary
  deriving Repr, DecidableEq

/-- The channels in order. -/
def Color.channels (c : Color) : List Binary := [c.red, c.green, c.blue, c.alpha]

/-- A call to a context that names the places of uniforms by `ℓ`. -/
inductive Call (ℓ : Type)
  | createShader (stage : Stage)
  | shaderSource (shader : Handle) (text : String)
  | compileShader (shader : Handle)
  | compileStatus (shader : Handle)
  | shaderLog (shader : Handle)
  | deleteShader (shader : Handle)
  | createProgram
  | attachShader (program shader : Handle)
  | detachShader (program shader : Handle)
  | linkProgram (program : Handle)
  | linkStatus (program : Handle)
  | programLog (program : Handle)
  | useProgram (program : Option Handle)
  | deleteProgram (program : Handle)
  | createBuffer
  | uploadArrayBuffer (buffer : Handle) (data : List UInt8)
  | bindArrayBuffer (buffer : Option Handle)
  | deleteBuffer (buffer : Handle)
  | attribLocation (program : Handle) (name : String)
  | floatAttribPointer (index : Nat) (components : Int)
  | uniformLocation (program : Handle) (name : String)
  | uniformVec2 (location : ℓ) (x y : Binary)
  | uniformFloat (location : ℓ) (value : Binary)
  | viewport (width height : Int)
  | clearColor (color : Color)
  | drawTriangleStrip (first count : Int)
  | readRgba (width height : Int)
  deriving Repr, DecidableEq

/-- What a context answers to a call: a new handle or the reason why there is none, a status, a log,
a place, the bytes of the frame from its bottom row on, or nothing. -/
@[reducible] def Call.Answer {ℓ : Type} : Call ℓ → Type
  | .createShader _ | .createProgram | .createBuffer => Except String Handle
  | .compileStatus _ | .linkStatus _ => Bool
  | .shaderLog _ | .programLog _ => String
  | .attribLocation _ _ => Option Nat
  | .uniformLocation _ _ => Option ℓ
  | .readRgba _ _ => List UInt8
  | _ => Unit

/-- A context with states `σ`, by its answer to each call. -/
abbrev Driver (σ ℓ : Type) : Type := (call : Call ℓ) → σ → call.Answer × σ

end ShaderSketch.Gl
