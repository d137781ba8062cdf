import ShaderSketch.Proofs.Forecast
import ShaderSketch.Proofs.Judgement

/-!
# What a source is fed

On a surface in memory, a source that is drawn gets the standard uniforms that its own text
declares, and no other.  The preamble that is put into it declares nothing, and neither does the
vertex stage, so the lines of the source alone decide.

## Main definitions

* `Gl.Declares` — whether a line of a text declares a uniform
* `Gl.Event.feeds`, `Gl.Event.points`, `Gl.Event.delimits` — kinds of events
* `Frame.Fed` — events that feed a source what it declares, once and in time
* `Canvas.sizeAfter` — the size that a surface has at the end of a life

## Main results

* `Frame.mem_uniforms` : a program exposes the uniforms that its source declares
* `Canvas.fed_as_declared` : every frame that is drawn in any life of a canvas is fed as its source
  declares, with the size of the surface at that time
-/

namespace ShaderSketch

open Surface

/-! ## Declarations -/

namespace Gl

/-- Whether some line of a text declares a uniform. -/
def Declares (text : List Char) (name : String) : Prop :=
  ∃ line ∈ Text.lines text, declaredName? "uniform".toList line = some name.toList

instance (text : List Char) (name : String) : Decidable (Declares text name) :=
  inferInstanceAs
    (Decidable (∃ line ∈ Text.lines text, declaredName? "uniform".toList line = some name.toList))

theorem mem_declaredNames {text : List Char} {name : String} :
    name ∈ declaredNames "uniform" text ↔ Declares text name := by
  have heq (word : List Char) : String.ofList word = name ↔ word = name.toList := by
    rw [String.ext_iff, String.toList_ofList]
  simp only [declaredNames, List.mem_filterMap, Option.map_eq_some_iff, heq, exists_eq_right]
  rfl

/-! ## Kinds of events -/

namespace Event

/-- Whether an event feeds a uniform. -/
def feeds : Event → Bool
  | .uniformVec2 _ _ _ | .uniformFloat _ _ => true
  | _ => false

/-- Whether an event points an attribute at a buffer. -/
def points : Event → Bool
  | .attribPointer _ _ => true
  | _ => false

/-- Whether an event makes a program current or draws. -/
def delimits : Event → Bool
  | .useProgram _ | .drawTriangleStrip _ _ => true
  | _ => false

end Event

end Gl

namespace Frame

open Gl

/-- **A program exposes the uniforms that its source declares.**  The preamble may stand between the
lines of a source and the vertex stage is joined to it, but neither of the two declares a uniform,
so that nobody else decides what is fed. -/
theorem mem_uniforms {source name : String} :
    name ∈ uniforms source ↔ Declares source.toList name := by
  have hvertex : declaredNames "uniform" Shader.vertexSource.toList = [] := by decide
  have hcompiled : declaredNames "uniform" (Shader.prepare source).toList =
      declaredNames "uniform" source.toList := by
    rw [Shader.toList_prepare,
      Shader.declaredNames_compiledText (by decide) (by decide) (by decide)]
  show name ∈ declaredNames "uniform" Shader.vertexSource.toList ++
    declaredNames "uniform" (Shader.prepare source).toList ↔ _
  rw [hvertex, List.nil_append, hcompiled, mem_declaredNames]

/-- The events that feed the standard uniforms: the size of a surface to a text that declares that,
and the time to a text that declares that. -/
def feed (view : View) (text : List Char) : List Event :=
  (if Declares text Shader.resolution then
    [.uniformVec2 Shader.resolution (Binary.ofNat .single view.width.toNat)
      (Binary.ofNat .single view.height.toNat)]
    else []) ++
  if Declares text Shader.time then [.uniformFloat Shader.time view.seconds] else []

/-- The events of a frame that feed it what its source declares: the uniforms that the text declares
and no other, and the rectangle to the first attribute with two components; the uniforms while the
program of the frame is current, and before it is drawn.  The three say which uniforms are fed, how
often, and when: the first is an equation between lists, so that a source which declares a uniform
twice is still fed it once. -/
structure Fed (view : View) (text : List Char) (events : List Event) : Prop where
  uniforms : events.filter Event.feeds = feed view text
  pointers : events.filter Event.points = [.attribPointer 0 2]
  between : ∃ program before middle after,
    events = before ++ .useProgram (some program) ::
      (middle ++ .drawTriangleStrip 0 4 :: after) ∧
    (∀ e ∈ before ++ after, e.feeds = false) ∧ ∀ e ∈ before ++ middle ++ after, e.delimits = false

variable {view : View} {source : String} {program rectangle : Handle} {capture : Bool}

/-- The events behind the first of `inputEvents`, which makes the program current. -/
theorem inputEvents_eq :
    inputEvents view source program rectangle = .useProgram (some program) ::
      (.bindBuffer (some rectangle) :: .attribPointer 0 2 :: feed view source.toList) := by
  simp only [inputEvents, feed, mem_uniforms, List.append_assoc]
  rfl

theorem feeds_of_mem_feed {text : List Char} :
    ∀ e ∈ feed view text, e.feeds ∧ e.points = false ∧ e.delimits = false := by
  unfold feed
  rw [List.forall_mem_append]
  constructor <;> split <;> simp [Event.feeds, Event.points, Event.delimits]

/-- Painting feeds nothing, and draws after the frame was cleared. -/
theorem exists_paintEvents (view : View) (capture : Bool) :
    ∃ after, paintEvents view capture =
        [.viewport (side view.width) (side view.height), .clear background] ++
          .drawTriangleStrip 0 4 :: after ∧
      ∀ e ∈ after, e.feeds = false ∧ e.points = false ∧ e.delimits = false := by
  refine ⟨if capture then [.readPixels (side view.width) (side view.height)] else [], rfl, ?_⟩
  split <;> simp [Event.feeds, Event.points, Event.delimits]

/-- Events of which none is of a kind add none of that kind. -/
theorem filter_eq_nil_of_quiet {p : Event → Bool} {quiet : List Event}
    (h : ∀ e ∈ quiet, p e = false) : quiet.filter p = [] :=
  List.filter_eq_nil_iff.mpr fun e he => by simp [h e he]

/-- **What is said to draw a frame feeds its source**, if what comes before that does not.  Verdicts
and the filling of the rectangle are quiet in this sense, and they are all that an attempt records
before it feeds anything. -/
theorem fed_of_quiet (view : View) (source : String) (program rectangle : Handle) (capture : Bool)
    {quiet : List Event}
    (h : ∀ e ∈ quiet, e.feeds = false ∧ e.points = false ∧ e.delimits = false) :
    Fed view source.toList
      (quiet ++ (inputEvents view source program rectangle ++ paintEvents view capture)) := by
  have hfeed := @feeds_of_mem_feed view source.toList
  obtain ⟨after, hpaint, hafter⟩ := exists_paintEvents view capture
  rw [inputEvents_eq, hpaint]
  refine ⟨?_, ?_, program, quiet, .bindBuffer (some rectangle) :: .attribPointer 0 2 ::
    (feed view source.toList ++ [.viewport (side view.width) (side view.height),
      .clear background]), after, by simp, ?_, ?_⟩
  · have hall : (feed view source.toList).filter Event.feeds = feed view source.toList :=
      List.filter_eq_self.mpr fun e he => (hfeed e he).1
    simp [filter_eq_nil_of_quiet fun e he => (h e he).1,
      filter_eq_nil_of_quiet fun e he => (hafter e he).1, hall, Event.feeds]
  · simp [List.filter_cons, filter_eq_nil_of_quiet fun e he => (h e he).2.1,
      filter_eq_nil_of_quiet fun e he => (hafter e he).2.1,
      filter_eq_nil_of_quiet fun e he => (hfeed e he).2.1, Event.points]
  · exact List.forall_mem_append.mpr ⟨fun e he => (h e he).1, fun e he => (hafter e he).1⟩
  · simp only [List.forall_mem_append, List.forall_mem_cons]
    refine ⟨⟨fun e he => (h e he).2.2, rfl, rfl, fun e he => (hfeed e he).2.2, ?_⟩,
      fun e he => (hafter e he).2.2⟩
    simp [Event.delimits]

end Frame

/-! ## Canvases -/

namespace Canvas

open ShaderSketch.Frame Gl MemorySurface

variable {c : Canvas MemorySurface}

theorem quiet_traces (source : String) (rectangle : Option Handle) (new : Handle) :
    ∀ e ∈ (traces source (.ok ())).events ++ fillingEvents rectangle new,
      e.feeds = false ∧ e.points = false ∧ e.delimits = false := by
  rw [List.forall_mem_append]
  constructor
  · exact forall_mem_traces (fun _ _ => ⟨rfl, rfl, rfl⟩) (fun _ => ⟨rfl, rfl, rfl⟩) source _
  · cases rectangle <;> simp [fillingEvents, Event.feeds, Event.points, Event.delimits]

/-- An attempt that succeeds feeds its source what that declares. -/
theorem fed_attempt (rest : c.surface.AtRest c.rectangle) (source : String) (capture : Bool)
    {pixels : Pixels} (h : (c.attempt plain source capture).1 = .ok pixels) :
    ∃ events, (c.attempt plain source capture).2.surface.gl.events =
        c.surface.gl.events ++ events ∧
      Fed (plain.view c.surface) source.toList events := by
  rw [attempt_eq_forecast rest] at h ⊢
  have hforecast : c.forecast source = .ok () := by
    cases hresult : c.forecast source with
    | ok _ => rfl
    | error e =>
        rw [hresult] at h
        cases h
  refine ⟨_, c.events_afterwards source capture, ?_⟩
  rw [drawing, hforecast, if_pos (show drew (.ok () : Except Failure Unit) = true from rfl),
    ← List.append_assoc]
  exact fed_of_quiet _ _ _ _ _ (quiet_traces _ _ _)

/-! ## Sizes -/

/-- The size of a surface, in pixels. -/
def size (m : MemorySurface) : UInt32 × UInt32 := (m.width, m.height)

/-- The size that a surface of a given size has after a life: the last that it was given.  It looks
at the life alone and knows nothing of a surface. -/
def sizeAfter (first : UInt32 × UInt32) (life : List (Step Incident)) : UInt32 × UInt32 :=
  life.foldl (fun last t =>
    match t with
    | .change (.resize width height) => (width, height)
    | _ => last) first

/-- No answer of a surface in memory changes its size. -/
theorem size_run {α : Type} (r : Routine String α) (m : MemorySurface) :
    size (r.run plain m).2 = size m := by
  refine Routine.run_induction (P := fun x => size x = size m) (fun request x hx => ?_) r rfl
  cases request with
  | gl call => exact hx
  | present =>
      have hpresent : size x.present.2 = size x := by rw [present_snd]; rfl
      exact hpresent.trans hx

/-- Only an incident changes the size of a surface, so that the last one in the life that did
decides. -/
theorem size_steps (c : Canvas MemorySurface) (life : List (Step Incident)) :
    size (c.steps troubled life).surface = sizeAfter (size c.surface) life := by
  induction life generalizing c with
  | nil => rfl
  | cons t life ih =>
      refine (ih (c.step troubled t)).trans (congrArg (sizeAfter · life) ?_)
      cases t with
      | draw source => exact size_run _ _
      | capture source => exact size_run _ _
      | save source path files =>
          rw [step, saveAs_canvas, picture_canvas]
          split
          · rfl
          · exact size_run _ _
      | release => exact size_run _ _
      | change what => cases what <;> rfl

/-- **A source is fed what it declares.**  In every life of a canvas on a new surface in memory,
every attempt that succeeds records one event for each standard uniform that some line of its source
declares, and none for any other; they come after its program was made current and before it is
drawn, and the first attribute is pointed at the rectangle once.  The size that is fed is the one
that the surface was given last. -/
theorem fed_as_declared {m : MemorySurface} (hgl : m.gl = {}) (life : List (Step Incident))
    (source : String) (capture : Bool) :
    let c := ({ surface := m } : Canvas _).steps troubled life
    size c.surface = sizeAfter (size m) life ∧
      ∀ pixels, (c.attempt plain source capture).1 = .ok pixels →
        ∃ events, (c.attempt plain source capture).2.surface.gl.events =
            c.surface.gl.events ++ events ∧
          Fed (plain.view c.surface) source.toList events := by
  intro c
  exact ⟨size_steps _ life, fun _ h => fed_attempt (rest_steps hgl life) source capture h⟩

/-- A life with a source that does not compile, sizes that change, and a release. -/
def resizedLife : List (Step Incident) :=
  [.draw "void main(", .change (.resize 640 480), .release, .change (.resize 3 5)]

/-- A source that declares the size twice, with a precision and as an array, and does not declare
the time. -/
def doubledSource : String :=
  "precision mediump float;\nuniform mediump vec2 u_resolution;\n" ++
    " uniform vec2 u_resolution[2];\nvoid main() {}"

theorem fed_as_declared_doubled :
    let m : MemorySurface := { width := 8, height := 8 }
    let c := ({ surface := m } : Canvas _).steps troubled resizedLife
    size c.surface = (3, 5) ∧ (c.attempt plain doubledSource false).1 = .ok [] ∧
      ∃ events, (c.attempt plain doubledSource false).2.surface.gl.events =
          c.surface.gl.events ++ events ∧
        Fed (plain.view c.surface) doubledSource.toList events ∧
        events.filter Event.feeds = [.uniformVec2 "u_resolution" (Binary.ofNat .single 3)
          (Binary.ofNat .single 5)] := by
  have h := fed_as_declared (m := { width := 8, height := 8 }) rfl resizedLife doubledSource false
  dsimp only at h ⊢
  have hforecast : (({ surface := { width := 8, height := 8 } } : Canvas MemorySurface).steps
      troubled resizedLife).forecast doubledSource = .ok () := by
    decide +kernel
  have hdrawn : ((({ surface := { width := 8, height := 8 } } : Canvas MemorySurface).steps
      troubled resizedLife).attempt plain doubledSource false).1 = .ok [] := by
    rw [attempt_eq_forecast (rest_steps rfl resizedLife), hforecast]
    rfl
  have hfeed : feed (plain.view (({ surface := { width := 8, height := 8 } } :
      Canvas MemorySurface).steps troubled resizedLife).surface) doubledSource.toList =
      [.uniformVec2 "u_resolution" (Binary.ofNat .single 3) (Binary.ofNat .single 5)] := by
    decide +kernel
  obtain ⟨events, hevents, fed⟩ := h.2 _ hdrawn
  exact ⟨h.1, hdrawn, events, hevents, fed, fed.uniforms.trans hfeed⟩

end Canvas

end ShaderSketch
