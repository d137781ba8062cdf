import ShaderSketch.Gl.Call

/-!
# A native graphics library

A context over the entry points of a native library. Most calls are one entry point; creating a
buffer, filling one, pointing an attribute, clearing and reading back take several, and a log is
asked for by its length first. What the library answers is a script, and what it is asked is
recorded.

## Main definitions

* `Gl.Command` : the entry points, with their arguments
* `Gl.Command.name`, `Gl.Command.arguments` : a command as the library sees it
* `Gl.Native` : the state of the context
* `Gl.Native.answer` : the context as a driver
-/

namespace ShaderSketch.Gl

/-- What is asked about a shader or a program. -/
inductive Query
  | compileStatus
  | linkStatus
  | logLength
  deriving Repr, DecidableEq

/-- The number of a query. -/
def Query.code : Query → Nat
  | .compileStatus => 35713
  | .linkStatus => 35714
  | .logLength => 35716

/-- The entry points of a native library, with the arguments that vary, and the point at which the
window shows what was drawn. -/
inductive Command
  | createShader (stage : Stage) (id : Handle)
  | shaderSource (id : Handle) (text : String)
  | compileShader (id : Handle)
  | getShader (id : Handle) (query : Query)
  | deleteShader (id : Handle)
  | createProgram (id : Handle)
  | attachShader (program shader : Handle)
  | detachShader (program shader : Handle)
  | linkProgram (id : Handle)
  | getProgram (id : Handle) (query : Query)
  | useProgram (id : Handle)
  | deleteProgram (id : Handle)
  | genBuffers (id : Handle)
  | bindBuffer (id : Handle)
  | bufferData (data : List UInt8)
  | deleteBuffers (id : Handle)
  | attribLocation (program : Handle) (name : String)
  | uniformLocation (program : Handle) (name : String)
  | enableVertexAttribArray (index : Nat)
  | vertexAttribPointer (index : Nat) (components : Int)
  | uniform2f (location : Int) (x y : Binary)
  | uniform1f (location : Int) (value : Binary)
  | viewport (width height : Int)
  | clearColor (color : Color)
  | clear
  | drawArrays (first count : Int)
  | pixelStore
  | readPixels (width height : Int)
  | present
  deriving Repr, DecidableEq

/-- An argument of an entry point. -/
inductive Argument
  | number (n : Int)
  | text (s : String)
  | bytes (data : List UInt8)
  | float (x : Binary)
  | floats (xs : List Binary)
  deriving Repr, DecidableEq

/-- The number of a stage. -/
def Stage.code : Stage → Nat
  | .vertex => 35633
  | .fragment => 35632

namespace Command

/-- The name of an entry point. -/
def name : Command → String
  | .createShader _ _ => "CreateShader"
  | .shaderSource _ _ => "ShaderSource"
  | .compileShader _ => "CompileShader"
  | .getShader _ _ => "GetShaderiv"
  | .deleteShader _ => "DeleteShader"
  | .createProgram _ => "CreateProgram"
  | .attachShader _ _ => "AttachShader"
  | .detachShader _ _ => "DetachShader"
  | .linkProgram _ => "LinkProgram"
  | .getProgram _ _ => "GetProgramiv"
  | .useProgram _ => "UseProgram"
  | .deleteProgram _ => "DeleteProgram"
  | .genBuffers _ => "GenBuffers"
  | .bindBuffer _ => "BindBuffer"
  | .bufferData _ => "BufferData"
  | .deleteBuffers _ => "DeleteBuffers"
  | .attribLocation _ _ | .uniformLocation _ _ => "Location"
  | .enableVertexAttribArray _ => "EnableVertexAttribArray"
  | .vertexAttribPointer _ _ => "VertexAttribPointer"
  | .uniform2f _ _ _ => "Uniform2f"
  | .uniform1f _ _ => "Uniform1f"
  | .viewport _ _ => "Viewport"
  | .clearColor _ => "ClearColor"
  | .clear => "Clear"
  | .drawArrays _ _ => "DrawArrays"
  | .pixelStore => "PixelStorei"
  | .readPixels _ _ => "ReadPixels"
  | .present => "present"

/-- The number of the target that array buffers are bound to. -/
def arrayBuffer : Argument := .number 34962

/-- The arguments of an entry point in its own order, with the numbers of what never varies: static
use of the data, floats that are not normalised and tightly packed, the colour plane, strips of
triangles, and rows of bytes without padding. -/
def arguments : Command → List Argument
  | .createShader stage id => [.number stage.code, .number id]
  | .shaderSource id text => [.number id, .number 1, .text text]
  | .compileShader id | .deleteShader id | .createProgram id | .linkProgram id
  | .useProgram id | .deleteProgram id => [.number id]
  | .getShader id query | .getProgram id query => [.number id, .number query.code]
  | .attachShader program shader | .detachShader program shader =>
    [.number program, .number shader]
  | .genBuffers id | .deleteBuffers id => [.number 1, .number id]
  | .bindBuffer id => [arrayBuffer, .number id]
  | .bufferData data => [arrayBuffer, .bytes data, .number 35044]
  | .attribLocation program name => [.text "attribs", .number program, .text name]
  | .uniformLocation program name => [.text "uniforms", .number program, .text name]
  | .enableVertexAttribArray index => [.number index]
  | .vertexAttribPointer index components =>
    [.number index, .number components, .number 5126, .number 0, .number 0, .number 0]
  | .uniform2f location x y => [.number location, .float x, .float y]
  | .uniform1f location value => [.number location, .float value]
  | .viewport width height => [.number 0, .number 0, .number width, .number height]
  | .clearColor color => [.floats color.channels]
  | .clear => [.number 16384]
  | .drawArrays first count => [.number 5, .number first, .number count]
  | .pixelStore => [.number 3333, .number 1]
  | .readPixels width height =>
    [.number 0, .number 0, .number width, .number height, .number 6408, .number 5121]
  | .present => []

end Command

/-- What a native library answers: statuses, of which only 1 is success, logs, and the places of
attributes and uniforms, of which negative ones stand for none. -/
structure Native.Script where
  compileStatus : Stage → Int := fun _ => 1
  compileLog : Stage → String := fun _ => ""
  linkStatus : Int := 1
  linkLog : String := ""
  attribs : String → Int := fun _ => -1
  uniforms : String → Int := fun _ => -1

/-- The state of the context: its script, the last name given out, the stages of its shaders, and
what was recorded. -/
structure Native where
  script : Native.Script := {}
  issued : Nat := 0
  stages : List (Handle × Stage) := []
  commands : List Command := []

namespace Native

/-- The context with one more command. -/
def record (n : Native) (c : Command) : Native := { n with commands := n.commands ++ [c] }

/-- The stage of a shader. -/
def stage (n : Native) (h : Handle) : Stage := (n.stages.lookup h).getD .vertex

/-- A place, unless it is negative. -/
def location? (i : Int) : Option Int := if i < 0 then none else some i

/-- How many bytes the frame of a size has; a negative side counts as none. -/
def frameBytes (width height : Int) : Nat := width.toNat * height.toNat * 4

/-- The bytes that are read back. -/
def frame (width height : Int) : List UInt8 :=
  (List.range (frameBytes width height)).map fun i => UInt8.ofNat (i % 251)

/-- The context as a driver. -/
def answer : Driver Native Int
  | .createShader stage, n =>
    let h := n.issued + 1
    (.ok h,
      { n with issued := h, stages := (h, stage) :: n.stages }.record (.createShader stage h))
  | .shaderSource h text, n => ((), n.record (.shaderSource h text))
  | .compileShader h, n => ((), n.record (.compileShader h))
  | .compileStatus h, n =>
    (n.script.compileStatus (n.stage h) = 1, n.record (.getShader h .compileStatus))
  | .shaderLog h, n => (n.script.compileLog (n.stage h), n.record (.getShader h .logLength))
  | .deleteShader h, n => ((), n.record (.deleteShader h))
  | .createProgram, n =>
    let h := n.issued + 1
    (.ok h, { n with issued := h }.record (.createProgram h))
  | .attachShader program shader, n => ((), n.record (.attachShader program shader))
  | .detachShader program shader, n => ((), n.record (.detachShader program shader))
  | .linkProgram h, n => ((), n.record (.linkProgram h))
  | .linkStatus h, n => (n.script.linkStatus = 1, n.record (.getProgram h .linkStatus))
  | .programLog h, n => (n.script.linkLog, n.record (.getProgram h .logLength))
  | .useProgram program, n => ((), n.record (.useProgram (program.getD 0)))
  | .deleteProgram h, n => ((), n.record (.deleteProgram h))
  | .createBuffer, n =>
    let h := n.issued + 1
    (.ok h, { n with issued := h }.record (.genBuffers h))
  | .uploadArrayBuffer h data, n => ((), (n.record (.bindBuffer h)).record (.bufferData data))
  | .bindArrayBuffer buffer, n => ((), n.record (.bindBuffer (buffer.getD 0)))
  | .deleteBuffer h, n => ((), n.record (.deleteBuffers h))
  | .attribLocation h name, n =>
    ((location? (n.script.attribs name)).map Int.toNat, n.record (.attribLocation h name))
  | .floatAttribPointer index components, n =>
    ((), (n.record (.enableVertexAttribArray index)).record (.vertexAttribPointer index components))
  | .uniformLocation h name, n =>
    (location? (n.script.uniforms name), n.record (.uniformLocation h name))
  | .uniformVec2 location x y, n => ((), n.record (.uniform2f location x y))
  | .uniformFloat location value, n => ((), n.record (.uniform1f location value))
  | .viewport width height, n => ((), n.record (.viewport width height))
  | .clearColor color, n => ((), (n.record (.clearColor color)).record .clear)
  | .drawTriangleStrip first count, n => ((), n.record (.drawArrays first count))
  | .readRgba width height, n =>
    (frame width height, (n.record .pixelStore).record (.readPixels width height))

end Native

end ShaderSketch.Gl
