import ShaderSketch.Canvas.Frame
import ShaderSketch.Proofs.Conversation

/-!
# What an attempt says

Every conversation that one attempt to draw a frame can have, as a grammar: one constructor for each
way that an attempt can end, with the exchanges written out.

## Main definitions

* `Frame.Compiling`, `Frame.Linking`, `Frame.Assembling` — the conversations about a program
* `Frame.Holding` — those about the buffer with the rectangle
* `Frame.feeding`, `Frame.Painting` — those about the frame itself
* `Frame.Attempting` — those of a whole attempt

## Main results

`Frame.attempting_of_said` : an attempt has no other conversations.  Laws about what a driver is
told during an attempt are proved by cases on `Frame.Attempting` from here on, and never by opening
the routines again.
-/

namespace ShaderSketch.Frame

open Routine Surface

variable {ℓ : Type}

/-- A graphics call with its answer. -/
abbrev told (call : Gl.Call ℓ) (answer : call.Answer) : Exchange ℓ := ⟨.gl call, answer⟩

/-! ## Programs -/

/-- What is said to compile a source: there is no shader to be had, the shader is good, or it is not
and goes again.  The log is read only when the shader is no good, and the shader is deleted then,
since nobody else knows its handle. -/
inductive Compiling (stage : Gl.Stage) (source : String) :
    List (Exchange ℓ) → Except Canvas.Failure Gl.Handle → Prop
  | refused (reason : String) :
      Compiling stage source [told (.createShader stage) (.error reason)]
        (.error (.allocation (.shader stage) reason))
  | accepted (shader : Gl.Handle) :
      Compiling stage source
        [told (.createShader stage) (.ok shader), told (.shaderSource shader source) (),
          told (.compileShader shader) (), told (.compileStatus shader) true]
        (.ok shader)
  | rejected (shader : Gl.Handle) (log : String) :
      Compiling stage source
        [told (.createShader stage) (.ok shader), told (.shaderSource shader source) (),
          told (.compileShader shader) (), told (.compileStatus shader) false,
          told (.shaderLog shader) log, told (.deleteShader shader) ()]
        (.error (.compilation stage log))

/-- What is said about a new program before its verdict: both shaders are attached, linked, and
detached again. -/
def joining (program vertex fragment : Gl.Handle) : List (Exchange ℓ) :=
  [told .createProgram (.ok program), told (.attachShader program vertex) (),
    told (.attachShader program fragment) (), told (.linkProgram program) (),
    told (.detachShader program vertex) (), told (.detachShader program fragment) ()]

/-- What is said to link two shaders.  Both shaders are detached before the verdict is asked for, so
that a program which is no good can be deleted by itself. -/
inductive Linking (vertex fragment : Gl.Handle) :
    List (Exchange ℓ) → Except Canvas.Failure Gl.Handle → Prop
  | refused (reason : String) :
      Linking vertex fragment [told .createProgram (.error reason)]
        (.error (.allocation .program reason))
  | accepted (program : Gl.Handle) :
      Linking vertex fragment
        (joining program vertex fragment ++ [told (.linkStatus program) true]) (.ok program)
  | rejected (program : Gl.Handle) (log : String) :
      Linking vertex fragment
        (joining program vertex fragment ++
          [told (.linkStatus program) false, told (.programLog program) log,
            told (.deleteProgram program) ()])
        (.error (.linking log))

/-- What is said to make a program for a source.  Whatever comes of it, both shaders go again. -/
inductive Assembling (source : String) :
    List (Exchange ℓ) → Except Canvas.Failure Gl.Handle → Prop
  | noVertex {said : List (Exchange ℓ)} {e : Canvas.Failure}
      (vertexStage : Compiling .vertex Shader.vertexSource said (.error e)) :
      Assembling source said (.error e)
  | noFragment {said said' : List (Exchange ℓ)} {vertex : Gl.Handle} {e : Canvas.Failure}
      (vertexStage : Compiling .vertex Shader.vertexSource said (.ok vertex))
      (fragmentStage : Compiling .fragment (Shader.prepare source) said' (.error e)) :
      Assembling source (said ++ (said' ++ [told (.deleteShader vertex) ()])) (.error e)
  | joined {said said' said'' : List (Exchange ℓ)} {vertex fragment : Gl.Handle}
      {result : Except Canvas.Failure Gl.Handle}
      (vertexStage : Compiling .vertex Shader.vertexSource said (.ok vertex))
      (fragmentStage : Compiling .fragment (Shader.prepare source) said' (.ok fragment))
      (link : Linking vertex fragment said'' result) :
      Assembling source
        (said ++ (said' ++ (said'' ++
          [told (.deleteShader vertex) (), told (.deleteShader fragment) ()])))
        result

/-- A conversation in which a stage is compiled has one of the forms of `Compiling`; the cases
follow the calls in their order. -/
theorem compiling_of_said {stage : Gl.Stage} {source : String} {said : List (Exchange ℓ)}
    {result : Except Canvas.Failure Gl.Handle}
    (h : Says (compiled stage source) said result) : Compiling stage source said result := by
  obtain ⟨answer, rest, rfl, hrest⟩ := says_call_bind.mp h
  cases answer with
  | error reason =>
      obtain ⟨rfl, rfl⟩ := says_pure.mp hrest
      exact .refused reason
  | ok shader =>
      -- the source is given and compiled, and there is nothing to choose before the verdict
      obtain _ | ⟨_ | ⟨hstatus⟩⟩ := hrest
      obtain ⟨status, _, rfl, hverdict⟩ := says_call_bind.mp hstatus
      cases status with
      | true =>
          obtain ⟨rfl, rfl⟩ := says_pure.mp hverdict
          exact .accepted shader
      | false =>
          obtain ⟨log, _, rfl, hlog⟩ := says_call_bind.mp hverdict
          obtain _ | ⟨⟨⟩⟩ := hlog
          exact .rejected shader log

/-- The same for linking: both shaders are detached before the verdict is asked for, and so whatever
it is. -/
theorem linking_of_said {vertex fragment : Gl.Handle} {said : List (Exchange ℓ)}
    {result : Except Canvas.Failure Gl.Handle}
    (h : Says (linked vertex fragment) said result) : Linking vertex fragment said result := by
  obtain ⟨answer, rest, rfl, hrest⟩ := says_call_bind.mp h
  cases answer with
  | error reason =>
      obtain ⟨rfl, rfl⟩ := says_pure.mp hrest
      exact .refused reason
  | ok program =>
      -- the five calls of `joining` after the first, up to the verdict
      obtain _ | ⟨_ | ⟨_ | ⟨_ | ⟨_ | ⟨hstatus⟩⟩⟩⟩⟩ := hrest
      obtain ⟨status, _, rfl, hverdict⟩ := says_call_bind.mp hstatus
      cases status with
      | true =>
          obtain ⟨rfl, rfl⟩ := says_pure.mp hverdict
          exact .accepted program
      | false =>
          obtain ⟨log, _, rfl, hlog⟩ := says_call_bind.mp hverdict
          obtain _ | ⟨⟨⟩⟩ := hlog
          exact .rejected program log

/-- Both stages and the program, one after the other: the first that fails ends it, and what was
made before is deleted. -/
theorem assembling_of_said {source : String} {said : List (Exchange ℓ)}
    {result : Except Canvas.Failure Gl.Handle}
    (h : Says (assembled source) said result) : Assembling source said result := by
  obtain ⟨first, vertex, _, rfl, hvertex, hrest⟩ := says_bind'.mp h
  have vertexStage := compiling_of_said hvertex
  cases vertex with
  | error e =>
      obtain ⟨rfl, rfl⟩ := says_pure.mp hrest
      simpa using Assembling.noVertex vertexStage
  | ok vertex =>
      obtain ⟨second, fragment, _, rfl, hfragment, hrest⟩ := says_bind'.mp hrest
      have fragmentStage := compiling_of_said hfragment
      cases fragment with
      | error e =>
          obtain _ | ⟨⟨⟩⟩ := hrest
          exact .noFragment vertexStage fragmentStage
      | ok fragment =>
          obtain ⟨third, result', _, rfl, hlink, hrest⟩ := says_bind'.mp hrest
          -- both shaders go before anybody looks at the result
          obtain _ | ⟨_ | ⟨⟨⟩⟩⟩ := hrest
          exact .joined vertexStage fragmentStage (linking_of_said hlink)

/-! ## The frame -/

/-- What is said to have a buffer with the rectangle in it: nothing when there is one already.  So a
canvas fills its buffer once, and every later attempt finds it under the handle that it kept. -/
inductive Holding : Option Gl.Handle → List (Exchange ℓ) → Gl.Handle → Prop
  | held (buffer : Gl.Handle) : Holding (some buffer) [] buffer
  | made (buffer : Gl.Handle) :
      Holding none
        [told .createBuffer (.ok buffer), told (.uploadArrayBuffer buffer Shader.cornerBytes) ()]
        buffer

/-- What is said to feed a program, by the places that the driver names. -/
def feeding (view : Surface.View) (program buffer : Gl.Handle) (position : Option Nat)
    (resolution time : Option ℓ) : List (Exchange ℓ) :=
  [told (.useProgram (some program)) (), told (.bindArrayBuffer (some buffer)) (),
    told (.attribLocation program Shader.position) position] ++
  (position.toList.map fun i => told (.floatAttribPointer i Shader.cornerSize) ()) ++
  [told (.uniformLocation program Shader.resolution) resolution] ++
  (resolution.toList.map fun l =>
    told (.uniformVec2 l (Binary.ofNat .single view.width.toNat)
      (Binary.ofNat .single view.height.toNat)) ()) ++
  [told (.uniformLocation program Shader.time) time] ++
  (time.toList.map fun l => told (.uniformFloat l view.seconds) ())

/-- What is said to clear the frame and to draw the rectangle. -/
def strokes (view : Surface.View) : List (Exchange ℓ) :=
  [told (.viewport (side view.width) (side view.height)) (), told (.clearColor background) (),
    told (.drawTriangleStrip 0 Shader.corners.length) ()]

/-- What is said to paint a frame, and to read it back when it is to be captured. -/
inductive Painting (view : Surface.View) : Bool → List (Exchange ℓ) → Pixels → Prop
  | unread : Painting view false (strokes view) []
  | read (pixels : Pixels) :
      Painting view true
        (strokes view ++ [told (.readRgba (side view.width) (side view.height)) pixels]) pixels

/-- There is a buffer in the end, which may be the one at hand, or there is no room for one. -/
theorem holding_of_said {rectangle : Option Gl.Handle} {said : List (Exchange ℓ)}
    {result : Except Canvas.Failure Gl.Handle} (h : Says (takeRectangle rectangle) said result) :
    (∃ buffer, result = .ok buffer ∧ Holding rectangle said buffer) ∨
      ∃ reason, rectangle = none ∧ result = .error (.allocation .rectangle reason) ∧
        said = [told .createBuffer (.error reason)] := by
  cases rectangle with
  | some buffer =>
      obtain ⟨rfl, rfl⟩ := says_pure.mp h
      exact .inl ⟨buffer, rfl, .held buffer⟩
  | none =>
      obtain ⟨answer, _, rfl, hrest⟩ := says_call_bind.mp h
      cases answer with
      | error reason =>
          obtain ⟨rfl, rfl⟩ := says_pure.mp hrest
          exact .inr ⟨reason, rfl, rfl, rfl⟩
      | ok buffer =>
          obtain _ | ⟨⟨⟩⟩ := hrest
          exact .inl ⟨buffer, rfl, .made buffer⟩

/-- Feeding cannot fail: a place that the driver does not know is passed over. -/
theorem feeding_of_said {view : Surface.View} {program buffer : Gl.Handle}
    {said : List (Exchange ℓ)} (h : Says (bindInputs view program buffer) said ()) :
    ∃ position resolution time, said = feeding view program buffer position resolution time := by
  obtain _ | ⟨_ | ⟨hposition⟩⟩ := h
  obtain ⟨position, _, rfl, hpointer⟩ := says_call_bind.mp hposition
  -- a place that the driver names is fed by one call more, and a place that it lacks by none
  rcases position with _ | position
  case' some => obtain _ | ⟨hpointer⟩ := hpointer
  all_goals
    obtain ⟨resolution, _, rfl, hsize⟩ := says_call_bind.mp hpointer
    rcases resolution with _ | resolution
  case' none.some | some.some => obtain _ | ⟨hsize⟩ := hsize
  all_goals
    obtain ⟨time, _, rfl, hseconds⟩ := says_call_bind.mp hsize
    rcases time with _ | time
  case' none.none.some | none.some.some | some.none.some | some.some.some =>
    obtain rfl := says_call.mp hseconds
  case' none.none.none | none.some.none | some.none.none | some.some.none =>
    obtain ⟨rfl, -⟩ := says_pure.mp hseconds
  all_goals exact ⟨_, _, _, rfl⟩

theorem painting_of_said {view : Surface.View} {capture : Bool} {said : List (Exchange ℓ)}
    {pixels : Pixels} (h : Says (paint view capture) said pixels) :
    Painting view capture said pixels := by
  obtain _ | ⟨_ | ⟨_ | ⟨h⟩⟩⟩ := h
  cases capture with
  | false =>
      obtain ⟨rfl, rfl⟩ := says_pure.mp h
      exact .unread
  | true =>
      obtain rfl := says_call.mp h
      exact .read pixels

/-! ## Whole attempts -/

/-- What is said during an attempt on a surface with a given view and with the rectangle at hand or
not.  The result comes with the buffer that is there afterwards.  Three of the four cases are
failures, by what there was no room for or what was found; the last is the way through to a frame,
and whether that is shown is left open to its end. -/
inductive Attempting (view : Surface.View) (rectangle : Option Gl.Handle) (source : String)
    (capture : Bool) :
    List (Exchange ℓ) → Except Canvas.Failure Pixels × Option Gl.Handle → Prop
  | noContext (lacking : view.hasContext = false) :
      Attempting view rectangle source capture [] (.error .noContext, rectangle)
  | noProgram {said : List (Exchange ℓ)} {e : Canvas.Failure} (context : view.hasContext = true)
      (failed : Assembling source said (.error e)) :
      Attempting view rectangle source capture said (.error e, rectangle)
  | noRectangle {said : List (Exchange ℓ)} {program : Gl.Handle}
      (context : view.hasContext = true) (assembled : Assembling source said (.ok program))
      (lacking : rectangle = none) (reason : String) :
      Attempting view rectangle source capture
        (said ++ [told .createBuffer (.error reason), told (.deleteProgram program) ()])
        (.error (.allocation .rectangle reason), none)
  | finished {said said' said'' : List (Exchange ℓ)} {program buffer : Gl.Handle} {pixels : Pixels}
      (context : view.hasContext = true) (assembled : Assembling source said (.ok program))
      (holding : Holding rectangle said' buffer) (position : Option Nat)
      (resolution time : Option ℓ) (painting : Painting view capture said'' pixels)
      (shown : Except Canvas.Failure Unit) :
      Attempting view rectangle source capture
        (said ++ (said' ++ (feeding view program buffer position resolution time ++ (said'' ++
          [told (.deleteProgram program) (), ⟨.present, shown⟩]))))
        (shown.map fun _ => pixels, some buffer)

/-- There is a rectangle after an attempt only if there is a context for it. -/
theorem Attempting.hasContext_of_isSome {view : Surface.View} {rectangle : Option Gl.Handle}
    {source : String} {capture : Bool} {said : List (Exchange ℓ)}
    {outcome : Except Canvas.Failure Pixels × Option Gl.Handle}
    (h : Attempting view rectangle source capture said outcome)
    (held : rectangle.isSome → view.hasContext) (hsome : outcome.2.isSome) : view.hasContext := by
  cases h with
  | noContext => exact held hsome
  | noProgram context => exact context
  | noRectangle context => exact context
  | finished context => exact context

/-- **An attempt has no other conversations.**  The routine is gone through once, here, with all
ways that an answer can go.  What is proved about the conversations of attempts is proved by the
cases of `Attempting`, and does not open the routine again. -/
theorem attempting_of_said {view : Surface.View} {rectangle : Option Gl.Handle} {source : String}
    {capture : Bool} {said : List (Exchange ℓ)}
    {outcome : Except Canvas.Failure Pixels × Option Gl.Handle}
    (h : Says (attempt view rectangle source capture) said outcome) :
    Attempting view rectangle source capture said outcome := by
  unfold attempt at h
  split at h
  case isFalse lacking =>
    obtain ⟨rfl, rfl⟩ := says_pure.mp h
    exact .noContext (by simpa using lacking)
  case isTrue context =>
    obtain ⟨first, program, _, rfl, hprogram, hbody⟩ := says_bind'.mp h
    have assembled := assembling_of_said hprogram
    cases program with
    | error e =>
        obtain ⟨rfl, rfl⟩ := says_pure.mp hbody
        simpa using Attempting.noProgram context assembled
    | ok program =>
        obtain ⟨second, buffer, _, rfl, hbuffer, hdraw⟩ := says_bind'.mp hbody
        obtain ⟨buffer, rfl, holding⟩ | ⟨reason, rfl, rfl, rfl⟩ := holding_of_said hbuffer
        · obtain ⟨third, _, _, rfl, hfeed, hstrokes⟩ := says_bind'.mp hdraw
          obtain ⟨position, resolution, time, rfl⟩ := feeding_of_said hfeed
          obtain ⟨fourth, pixels, _, rfl, hpaint, hend⟩ := says_bind'.mp hstrokes
          have painting := painting_of_said hpaint
          -- the program is deleted before the frame is shown
          obtain _ | ⟨hpresent⟩ := hend
          obtain ⟨shown, _, rfl, hshown⟩ := says_present_bind.mp hpresent
          cases shown with
          | error e =>
              obtain ⟨rfl, rfl⟩ := says_pure.mp hshown
              exact .finished context assembled holding position resolution time painting (.error e)
          | ok _ =>
              obtain ⟨rfl, rfl⟩ := says_pure.mp hshown
              exact .finished context assembled holding position resolution time painting (.ok ())
        · obtain _ | ⟨⟨⟩⟩ := hdraw
          exact .noRectangle context assembled rfl reason

end ShaderSketch.Frame
