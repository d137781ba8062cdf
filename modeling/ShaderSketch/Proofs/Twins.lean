import ShaderSketch.Proofs.Commands

/-!
# One pipeline for two drivers

The routines that draw a frame do not look at handles, nor at the places of uniforms: they hand back
what they were given.  So the same routine talks to two drivers in the same way, up to the names
that each of them gives to its objects.

## Main definitions

* `Gl.Renaming` — how the objects of one driver are named by another
* `Gl.Renaming.call`, `answer`, `exchange` — calls, answers and exchanges under the other names
* `Routine.Twin` — two routines that go on alike as long as their answers agree

## Main results

* `Routine.Twin.bind` : routines that are alike, one after another, are alike
* `Frame.twin_attempt` : an attempt is alike on both drivers

## Design notes

The bytes of a frame that is read back are not asked to agree, and nothing but the result depends on
them.
-/

namespace ShaderSketch

open Surface Gl

/-! ## Other names -/

/-- How the objects of one driver, which calls the places of uniforms by their names, are named by
another: handles are a fixed number further on, and each place has a number.  Handles of all kinds
are moved by the same number, since both drivers number them through. -/
structure Gl.Renaming where
  shift : Nat
  place : String → Int

namespace Gl.Renaming

variable (n : Renaming)

/-- A handle under the other name. -/
def handle (h : Handle) : Handle := h + n.shift

/-- A call under the other names. -/
def call : Call String → Call Int
  | .createShader stage => .createShader stage
  | .shaderSource h text => .shaderSource (n.handle h) text
  | .compileShader h => .compileShader (n.handle h)
  | .compileStatus h => .compileStatus (n.handle h)
  | .shaderLog h => .shaderLog (n.handle h)
  | .deleteShader h => .deleteShader (n.handle h)
  | .createProgram => .createProgram
  | .attachShader p h => .attachShader (n.handle p) (n.handle h)
  | .detachShader p h => .detachShader (n.handle p) (n.handle h)
  | .linkProgram p => .linkProgram (n.handle p)
  | .linkStatus p => .linkStatus (n.handle p)
  | .programLog p => .programLog (n.handle p)
  | .useProgram program => .useProgram (program.map n.handle)
  | .deleteProgram p => .deleteProgram (n.handle p)
  | .createBuffer => .createBuffer
  | .uploadArrayBuffer b data => .uploadArrayBuffer (n.handle b) data
  | .bindArrayBuffer buffer => .bindArrayBuffer (buffer.map n.handle)
  | .deleteBuffer b => .deleteBuffer (n.handle b)
  | .attribLocation p name => .attribLocation (n.handle p) name
  | .floatAttribPointer index components => .floatAttribPointer index components
  | .uniformLocation p name => .uniformLocation (n.handle p) name
  | .uniformVec2 l x y => .uniformVec2 (n.place l) x y
  | .uniformFloat l value => .uniformFloat (n.place l) value
  | .viewport width height => .viewport width height
  | .clearColor color => .clearColor color
  | .drawTriangleStrip first count => .drawTriangleStrip first count
  | .readRgba width height => .readRgba width height

/-- The answer to a call under the other names. -/
def answer : (call : Call String) → call.Answer → (n.call call).Answer
  | .createShader _, a | .createProgram, a | .createBuffer, a => a.map n.handle
  | .uniformLocation _ _, a => a.map n.place
  | .compileStatus _, a | .linkStatus _, a | .shaderLog _, a | .programLog _, a
  | .attribLocation _ _, a | .readRgba _ _, a | .shaderSource _ _, a | .compileShader _, a
  | .deleteShader _, a | .attachShader _ _, a | .detachShader _ _, a | .linkProgram _, a
  | .useProgram _, a | .deleteProgram _, a | .uploadArrayBuffer _ _, a | .bindArrayBuffer _, a
  | .deleteBuffer _, a | .floatAttribPointer _ _, a | .uniformVec2 _ _ _, a
  | .uniformFloat _ _, a | .viewport _ _, a | .clearColor _, a | .drawTriangleStrip _ _, a => a

/-- A request under the other names. -/
def request : Request String → Request Int
  | .gl c => .gl (n.call c)
  | .present => .present

/-- An exchange under the other names. -/
def exchange : Exchange String → Exchange Int
  | ⟨.gl c, a⟩ => ⟨.gl (n.call c), n.answer c a⟩
  | ⟨.present, a⟩ => ⟨.present, a⟩

/-- Whether the answers of two drivers to one request agree.  The bytes of a frame may be any. -/
def Agree : (q : Request String) → q.Answer → (n.request q).Answer → Prop
  | .gl (.readRgba _ _), _, _ => True
  | .gl c, a, b => b = n.answer c a
  | .present, a, b => b = a

/-- Where the answers agree, the library is told the same, up to the names. -/
theorem commands_of_agree {q : Request String} {a : q.Answer} {b : (n.request q).Answer}
    (h : n.Agree q a b) :
    Exchange.commands ⟨n.request q, b⟩ = (n.exchange ⟨q, a⟩).commands := by
  cases q with
  | present =>
      obtain rfl := h
      rfl
  | gl c =>
      cases c with
      | readRgba width height => rfl
      | _ =>
          obtain rfl := h
          rfl

end Gl.Renaming

/-! ## Twins -/

namespace Routine

variable {n : Renaming} {α β γ δ : Type} {R : α → β → Prop} {S : γ → δ → Prop}

/-- Two routines that are alike: they end with related results, or they make the same request under
the two names and go on alike for answers that agree.  Nothing is said of drivers: the two ask alike
whatever is answered, as long as the answers agree. -/
inductive Twin (n : Renaming) (R : α → β → Prop) : Routine String α → Routine Int β → Prop
  | done {a : α} {b : β} (related : R a b) : Twin n R (.done a) (.done b)
  | ask {q : Request String} {next : q.Answer → Routine String α}
      {next' : (n.request q).Answer → Routine Int β}
      (alike : ∀ a b, n.Agree q a b → Twin n R (next a) (next' b)) :
      Twin n R (.ask q next) (.ask (n.request q) next')

/-- **Twins one after another are twins.**  The relation between results is what the second parts
may rely on. -/
theorem Twin.bind {r : Routine String α} {r' : Routine Int β} {f : α → Routine String γ}
    {f' : β → Routine Int δ} (h : Twin n R r r')
    (alike : ∀ a b, R a b → Twin n S (f a) (f' b)) : Twin n S (r >>= f) (r' >>= f') := by
  induction h with
  | done related => exact alike _ _ related
  | ask _ ih => exact .ask fun a b hagree => ih a b hagree

/-- Routines that make one call, and go on alike, are twins. -/
theorem twin_call_bind (c : Call String) {f : c.Answer → Routine String α}
    {f' : (n.call c).Answer → Routine Int β}
    (alike : ∀ a b, n.Agree (.gl c) a b → Twin n R (f a) (f' b)) :
    Twin n R (call c >>= f) (call (n.call c) >>= f') :=
  .ask alike

end Routine

/-! ## The pipeline -/

namespace Frame

open Routine

variable (n : Renaming)

/-- Two routines end with the same handle under the two names, or they fail alike. -/
def SameHandle (a b : Except Canvas.Failure Handle) : Prop := b = a.map n.handle

/-- Two attempts end alike, whatever the bytes that were read back, and with the same buffer under
the two names. -/
def SameOutcome (a b : Except Canvas.Failure Pixels × Option Handle) : Prop :=
  (b.1.map fun _ => ()) = (a.1.map fun _ => ()) ∧ b.2 = a.2.map n.handle

/-- A handle is passed on and never looked at. -/
theorem twin_compiled (stage : Stage) (source : String) :
    Twin n (SameHandle n) (compiled stage source) (compiled stage source) := by
  refine twin_call_bind (.createShader stage) ?_
  rintro (reason | shader) _ rfl
  · exact .done rfl
  · refine twin_call_bind (.shaderSource shader source) fun _ _ _ => ?_
    refine twin_call_bind (.compileShader shader) fun _ _ _ => ?_
    refine twin_call_bind (.compileStatus shader) ?_
    rintro (_ | _) _ rfl
    · refine twin_call_bind (.shaderLog shader) ?_
      rintro log _ rfl
      exact twin_call_bind (.deleteShader shader) fun _ _ _ => .done rfl
    · exact .done rfl

/-- So it is with two. -/
theorem twin_linked (vertex fragment : Handle) :
    Twin n (SameHandle n) (linked vertex fragment)
      (linked (n.handle vertex) (n.handle fragment)) := by
  refine twin_call_bind .createProgram ?_
  rintro (reason | program) _ rfl
  · exact .done rfl
  · refine twin_call_bind (.attachShader program vertex) fun _ _ _ => ?_
    refine twin_call_bind (.attachShader program fragment) fun _ _ _ => ?_
    refine twin_call_bind (.linkProgram program) fun _ _ _ => ?_
    refine twin_call_bind (.detachShader program vertex) fun _ _ _ => ?_
    refine twin_call_bind (.detachShader program fragment) fun _ _ _ => ?_
    refine twin_call_bind (.linkStatus program) ?_
    rintro (_ | _) _ rfl
    · refine twin_call_bind (.programLog program) ?_
      rintro log _ rfl
      exact twin_call_bind (.deleteProgram program) fun _ _ _ => .done rfl
    · exact .done rfl

theorem twin_assembled (source : String) :
    Twin n (SameHandle n) (assembled source) (assembled source) := by
  refine (twin_compiled n .vertex Shader.vertexSource).bind ?_
  rintro (e | vertex) _ rfl
  · exact .done rfl
  · refine (twin_compiled n .fragment (Shader.prepare source)).bind ?_
    rintro (e | fragment) _ rfl
    · exact twin_call_bind (.deleteShader vertex) fun _ _ _ => .done rfl
    · refine (twin_linked n vertex fragment).bind fun a b hresult => ?_
      refine twin_call_bind (.deleteShader vertex) fun _ _ _ => ?_
      exact twin_call_bind (.deleteShader fragment) fun _ _ _ => .done hresult

theorem twin_takeRectangle (rectangle : Option Handle) :
    Twin n (SameHandle n) (takeRectangle rectangle) (takeRectangle (rectangle.map n.handle)) := by
  cases rectangle with
  | some buffer => exact .done rfl
  | none =>
      refine twin_call_bind .createBuffer ?_
      rintro (reason | buffer) _ rfl
      · exact .done rfl
      · exact twin_call_bind (.uploadArrayBuffer buffer Shader.cornerBytes) fun _ _ _ => .done rfl

/-- The places of attributes and uniforms come from the driver and go back to it. -/
theorem twin_bindInputs (view : View) (program rectangle : Handle) :
    Twin n (fun _ _ => True) (bindInputs view program rectangle)
      (bindInputs view (n.handle program) (n.handle rectangle)) := by
  refine twin_call_bind (.useProgram (some program)) fun _ _ _ => ?_
  refine twin_call_bind (.bindArrayBuffer (some rectangle)) fun _ _ _ => ?_
  refine twin_call_bind (.attribLocation program Shader.position) ?_
  -- a place that is there under one name is there under the other, and is fed by one call more
  rintro _ position rfl
  rcases position with _ | position
  case' some =>
    refine twin_call_bind (.floatAttribPointer position Shader.cornerSize) fun _ _ _ => ?_
  all_goals
    refine twin_call_bind (.uniformLocation program Shader.resolution) ?_
    rintro resolution _ rfl
    rcases resolution with _ | resolution
  case' none.some | some.some =>
    refine twin_call_bind (.uniformVec2 resolution (Binary.ofNat .single view.width.toNat)
      (Binary.ofNat .single view.height.toNat)) fun _ _ _ => ?_
  all_goals
    refine twin_call_bind (.uniformLocation program Shader.time) ?_
    rintro time _ rfl
    rcases time with _ | time
  case none.none.none | none.some.none | some.none.none | some.some.none => exact .done trivial
  case none.none.some | none.some.some | some.none.some | some.some.some =>
    exact .ask fun _ _ _ => .done trivial

theorem twin_paint (view : View) (capture : Bool) :
    Twin n (fun _ _ => True) (paint view capture) (paint view capture) := by
  refine twin_call_bind (.viewport (side view.width) (side view.height)) fun _ _ _ => ?_
  refine twin_call_bind (.clearColor background) fun _ _ _ => ?_
  refine twin_call_bind (.drawTriangleStrip 0 Shader.corners.length) fun _ _ _ => ?_
  cases capture with
  | false => exact .done trivial
  | true => exact .ask fun _ _ _ => .done trivial

/-- The parts of an attempt are twins, and so is what is made of them. -/
theorem twin_attemptOn (view : View) (rectangle : Option Handle) (source : String)
    (capture : Bool) :
    Twin n (SameOutcome n) (attemptOn view rectangle source capture)
      (attemptOn view (rectangle.map n.handle) source capture) := by
  refine (twin_assembled n source).bind ?_
  rintro (e | program) _ rfl
  · exact .done ⟨rfl, rfl⟩
  · refine (twin_takeRectangle n rectangle).bind ?_
    rintro (e | buffer) _ rfl
    · exact twin_call_bind (.deleteProgram program) fun _ _ _ => .done ⟨rfl, rfl⟩
    · refine (twin_bindInputs n view program buffer).bind fun _ _ _ => ?_
      refine (twin_paint n view capture).bind fun _ _ _ => ?_
      refine twin_call_bind (.deleteProgram program) fun _ _ _ => ?_
      refine Twin.ask (q := .present) ?_
      rintro (e | _) _ rfl
      · exact .done ⟨rfl, rfl⟩
      · exact .done ⟨rfl, rfl⟩

/-- **An attempt is alike on both drivers.**  An attempt never looks into a handle or a place, so
that the names make no difference to what it does. -/
theorem twin_attempt (view : View) (rectangle : Option Handle) (source : String)
    (capture : Bool) :
    Twin n (SameOutcome n) (attempt view rectangle source capture)
      (attempt view (rectangle.map n.handle) source capture) := by
  unfold attempt
  split
  · exact twin_attemptOn n view rectangle source capture
  · exact .done ⟨rfl, rfl⟩

end Frame

end ShaderSketch
