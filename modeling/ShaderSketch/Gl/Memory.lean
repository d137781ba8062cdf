import ShaderSketch.Gl.Brackets
import ShaderSketch.Gl.Call
import ShaderSketch.Gl.Declarations
import ShaderSketch.Gl.Table

/-!
# A graphics context in memory

A context that draws nothing: it keeps a table of live objects, checks sources as a compiler would,
and records what was asked of it.

## Main definitions

* `Gl.Event` : an observable effect of a call
* `Gl.Entry` : the calls that refuse a handle which names no live object
* `Gl.Memory` : the state of the context
* `Gl.Memory.answer` : the context as a driver
* `Gl.Memory.barShaders`, `Gl.Memory.barPrograms`, `Gl.Memory.barBuffers` : make later creations
  fail

## Design notes

All objects are numbered by one counter. A program keeps its verdict and the names it exposes from
the moment it is linked, so that it no longer depends on its shaders.
-/

namespace ShaderSketch.Gl

/-- The calls that refuse a handle which names no live object. -/
inductive Entry
  | compileShader
  | deleteShader
  | attachShader
  | detachShader
  | linkProgram
  | useProgram
  | deleteProgram
  | uploadArrayBuffer
  | bindArrayBuffer
  | deleteBuffer
  | drawTriangleStrip
  deriving Repr, DecidableEq

/-- The name under which a refusal is recorded. -/
def Entry.name : Entry → String
  | .compileShader => "compile_shader"
  | .deleteShader => "delete_shader"
  | .attachShader => "attach_shader"
  | .detachShader => "detach_shader"
  | .linkProgram => "link_program"
  | .useProgram => "use_program"
  | .deleteProgram => "delete_program"
  | .uploadArrayBuffer => "upload_array_buffer"
  | .bindArrayBuffer => "bind_array_buffer"
  | .deleteBuffer => "delete_buffer"
  | .drawTriangleStrip => "draw_triangle_strip"

/-- An observable effect of a call. -/
inductive Event
  | compileShader (stage : Stage) (ok : Bool)
  | linkProgram (ok : Bool)
  | useProgram (program : Option Handle)
  | uploadBuffer (bytes : Nat)
  | bindBuffer (buffer : Option Handle)
  | attribPointer (index : Nat) (components : Int)
  | uniformVec2 (name : String) (x y : Binary)
  | uniformFloat (name : String) (value : Binary)
  | viewport (width height : Int)
  | clear (color : Color)
  | drawTriangleStrip (first count : Int)
  | readPixels (width height : Int)
  | invalidHandle (entry : Entry)
  deriving Repr, DecidableEq

namespace Memory

/-- A shader: its stage, its source, and the verdict of its last compilation. -/
structure Shader where
  stage : Stage
  source : String := ""
  compiled : Option (Except String Unit) := none

/-- A program: the shaders attached to it, the verdict of its last link, and the names that it
exposes. -/
structure Program where
  attached : List Handle := []
  linked : Option (Except String Unit) := none
  attributes : List String := []
  uniforms : List String := []

/-- Whether a verdict is there and good. -/
def passed : Option (Except String Unit) → Bool
  | some (.ok _) => true
  | _ => false

/-- The log of a verdict. -/
def log : Option (Except String Unit) → String
  | some (.error text) => text
  | _ => ""

end Memory

/-- The state of the context. -/
structure Memory where
  issued : Nat := 0
  shaders : Table Memory.Shader := {}
  programs : Table Memory.Program := {}
  buffers : Table Unit := {}
  buffersMade : Nat := 0
  current : Option Handle := none
  compiled : List (Stage × String) := []
  events : List Event := []
  barredStage : Option Stage := none
  barsPrograms : Bool := false
  barsBuffers : Bool := false

namespace Memory

/-- Makes every later creation of a shader of a stage fail; only the last stage counts. -/
def barShaders (m : Memory) (stage : Stage) : Memory := { m with barredStage := some stage }

/-- Makes every later creation of a program fail. -/
def barPrograms (m : Memory) : Memory := { m with barsPrograms := true }

/-- Makes every later creation of a buffer fail. -/
def barBuffers (m : Memory) : Memory := { m with barsBuffers := true }

/-- The context with one more event. -/
def record (m : Memory) (e : Event) : Memory := { m with events := m.events ++ [e] }

/-- The context after a call that names no live object. -/
def refuse (m : Memory) (entry : Entry) : Memory := m.record (.invalidHandle entry)

/-- The sources of a stage that went through compilation. -/
def sourcesOf (m : Memory) (stage : Stage) : List String :=
  m.compiled.filterMap fun (s, source) => if s = stage then some source else none

/-- The colours of all clears. -/
def clears (m : Memory) : List Color :=
  m.events.filterMap fun | .clear color => some color | _ => none

/-- How many strips were drawn. -/
def stripsDrawn (m : Memory) : Nat :=
  m.events.countP fun | .drawTriangleStrip _ _ => true | _ => false

/-- How many calls named no live object. -/
def refusals (m : Memory) : Nat :=
  m.events.countP fun | .invalidHandle _ => true | _ => false

/-- The verdict on a source. -/
def verdict (source : String) : Except String Unit :=
  (checkBrackets source.toList).mapError SyntaxError.message

/-- A new shader. -/
def createShader (m : Memory) (stage : Stage) : Except String Handle × Memory :=
  if m.barredStage = some stage then
    (.error ("out of memory allocating " ++ stage.name ++ " shader"), m)
  else
    let h := m.issued + 1
    (.ok h, { m with issued := h, shaders := m.shaders.insert h { stage } })

/-- A new program. -/
def createProgram (m : Memory) : Except String Handle × Memory :=
  if m.barsPrograms then (.error "out of memory allocating program", m)
  else
    let h := m.issued + 1
    (.ok h, { m with issued := h, programs := m.programs.insert h {} })

/-- A new buffer. -/
def createBuffer (m : Memory) : Except String Handle × Memory :=
  if m.barsBuffers then (.error "out of memory allocating buffer", m)
  else
    let h := m.issued + 1
    (.ok h,
      { m with
        issued := h
        buffers := m.buffers.insert h ()
        buffersMade := m.buffersMade + 1 })

/-- Compiles the source that a shader has now. -/
def compileShader (m : Memory) (h : Handle) : Memory :=
  match m.shaders.get? h with
  | none => m.refuse .compileShader
  | some shader =>
    let result := verdict shader.source
    { m with
      shaders := m.shaders.modify h ({ · with compiled := some result })
      compiled := m.compiled ++ [(shader.stage, shader.source)] }
      |>.record (.compileShader shader.stage result.isOk)

/-- Attaches a shader to a program. -/
def attachShader (m : Memory) (program shader : Handle) : Memory :=
  if m.shaders.contains shader && m.programs.contains program then
    { m with
      programs := m.programs.modify program fun p => { p with attached := p.attached ++ [shader] } }
  else m.refuse .attachShader

/-- Detaches a shader from a program, however often it is attached. -/
def detachShader (m : Memory) (program shader : Handle) : Memory :=
  if m.programs.contains program then
    { m with
      programs := m.programs.modify program fun p =>
        { p with attached := p.attached.filter (· ≠ shader) } }
  else m.refuse .detachShader

/-- The source of the last shader of a stage that is attached, alive and compiled well. -/
def attachedSource? (m : Memory) (p : Program) (stage : Stage) : Option String :=
  (p.attached.filterMap fun h => do
    let shader ← m.shaders.get? h
    if passed shader.compiled ∧ shader.stage = stage then some shader.source else none).getLast?

/-- A program as linking leaves it. -/
def link (m : Memory) (p : Program) : Program :=
  match m.attachedSource? p .vertex, m.attachedSource? p .fragment with
  | some vertex, some fragment =>
    { p with
      linked := some (checkStages vertex.toList fragment.toList)
      attributes := declaredNames "attribute" vertex.toList
      uniforms := declaredNames "uniform" vertex.toList ++ declaredNames "uniform" fragment.toList }
  | _, _ =>
    { p with
      linked := some (.error "error: program requires a compiled vertex and fragment shader")
      attributes := []
      uniforms := [] }

/-- Links a program. -/
def linkProgram (m : Memory) (h : Handle) : Memory :=
  match m.programs.get? h with
  | none => m.refuse .linkProgram
  | some p =>
    { m with programs := m.programs.modify h fun _ => m.link p }
      |>.record (.linkProgram (passed (m.link p).linked))

/-- Makes a program, or none, the current one. -/
def useProgram (m : Memory) (program : Option Handle) : Memory :=
  if program.all m.programs.contains then
    { m with current := program }.record (.useProgram program)
  else m.refuse .useProgram

/-- Binds a buffer and fills it. -/
def uploadArrayBuffer (m : Memory) (h : Handle) (data : List UInt8) : Memory :=
  if m.buffers.contains h then
    (m.record (.bindBuffer (some h))).record (.uploadBuffer data.length)
  else m.refuse .uploadArrayBuffer

/-- Binds a buffer, or none. -/
def bindArrayBuffer (m : Memory) (buffer : Option Handle) : Memory :=
  if buffer.all m.buffers.contains then m.record (.bindBuffer buffer)
  else m.refuse .bindArrayBuffer

/-- Deletes a shader. -/
def deleteShader (m : Memory) (h : Handle) : Memory :=
  if m.shaders.contains h then { m with shaders := m.shaders.erase h }
  else m.refuse .deleteShader

/-- Deletes a program; it stays the current one if it is. -/
def deleteProgram (m : Memory) (h : Handle) : Memory :=
  if m.programs.contains h then { m with programs := m.programs.erase h }
  else m.refuse .deleteProgram

/-- Deletes a buffer. -/
def deleteBuffer (m : Memory) (h : Handle) : Memory :=
  if m.buffers.contains h then { m with buffers := m.buffers.erase h }
  else m.refuse .deleteBuffer

/-- The place of an attribute among those that a program exposes. -/
def attribLocation (m : Memory) (h : Handle) (name : String) : Option Nat := do
  (← m.programs.get? h).attributes.idxOf? name

/-- The place of a uniform that a program exposes, which is its name. -/
def uniformLocation (m : Memory) (h : Handle) (name : String) : Option String := do
  (← m.programs.get? h).uniforms.find? (· = name)

/-- The byte for a channel. -/
def channelByte (x : Binary) : UInt8 :=
  ((x.clampUnit .single).mul .single (Binary.ofNat .single 255)).toByte

/-- The bytes of a pixel of the last colour that the frame was cleared to; black and transparent
before that. -/
def texel (m : Memory) : List UInt8 :=
  match m.clears.getLast? with
  | some color => color.channels.map channelByte
  | none => List.replicate 4 0

/-- How many pixels a frame of a size has; a negative side counts as none. -/
def pixelCount (width height : Int) : Nat := width.toNat * height.toNat

/-- The context as a driver. -/
def answer : Driver Memory String
  | .createShader stage, m => m.createShader stage
  | .shaderSource h text, m =>
    ((), { m with shaders := m.shaders.modify h ({ · with source := text }) })
  | .compileShader h, m => ((), m.compileShader h)
  | .compileStatus h, m => (((m.shaders.get? h).map (passed ·.compiled)).getD false, m)
  | .shaderLog h, m => (((m.shaders.get? h).map (log ·.compiled)).getD "", m)
  | .deleteShader h, m => ((), m.deleteShader h)
  | .createProgram, m => m.createProgram
  | .attachShader program shader, m => ((), m.attachShader program shader)
  | .detachShader program shader, m => ((), m.detachShader program shader)
  | .linkProgram h, m => ((), m.linkProgram h)
  | .linkStatus h, m => (((m.programs.get? h).map (passed ·.linked)).getD false, m)
  | .programLog h, m => (((m.programs.get? h).map (log ·.linked)).getD "", m)
  | .useProgram program, m => ((), m.useProgram program)
  | .deleteProgram h, m => ((), m.deleteProgram h)
  | .createBuffer, m => m.createBuffer
  | .uploadArrayBuffer h data, m => ((), m.uploadArrayBuffer h data)
  | .bindArrayBuffer buffer, m => ((), m.bindArrayBuffer buffer)
  | .deleteBuffer h, m => ((), m.deleteBuffer h)
  | .attribLocation h name, m => (m.attribLocation h name, m)
  | .floatAttribPointer index components, m => ((), m.record (.attribPointer index components))
  | .uniformLocation h name, m => (m.uniformLocation h name, m)
  | .uniformVec2 name x y, m => ((), m.record (.uniformVec2 name x y))
  | .uniformFloat name value, m => ((), m.record (.uniformFloat name value))
  | .viewport width height, m => ((), m.record (.viewport width height))
  | .clearColor color, m => ((), m.record (.clear color))
  | .drawTriangleStrip first count, m =>
    ((), if m.current.isSome then m.record (.drawTriangleStrip first count)
      else m.refuse .drawTriangleStrip)
  | .readRgba width height, m =>
    ((List.replicate (pixelCount width height) m.texel).flatten,
      m.record (.readPixels width height))

end Memory

end ShaderSketch.Gl
