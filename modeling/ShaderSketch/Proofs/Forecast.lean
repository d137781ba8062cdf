import ShaderSketch.Proofs.Assembly
import ShaderSketch.Proofs.History

/-!
# What an attempt comes to in memory

On a surface in memory the result of an attempt can be told in advance, and the result tells all
that the attempt leaves behind.

## Main definitions

* `MemorySurface.AtRest` — a surface on which no attempt is under way
* `MemorySurface.forecast` — what an attempt is going to come to
* `Gl.Memory.drawn` — the context after an attempt that drew
* `MemorySurface.Incident`, `MemorySurface.troubled` — what can happen to a surface in memory
* `Canvas.forecast`, `Canvas.afterwards` — the result of an attempt on a canvas, and the canvas
  that it leaves

## Main results

* `MemorySurface.run_attempt_eq`, `Canvas.attempt_eq_forecast` : an attempt comes to what was
  forecast
* `Canvas.events_afterwards`, `compiled_afterwards`, `frames_afterwards`, `shown_afterwards` : what
  an attempt leaves behind, by its result
* `Canvas.rest_attempt`, `Canvas.rest_life` : after every attempt, and in every life of a canvas,
  its surface is at rest

## Design notes

A surface at rest holds the rectangle and nothing else.  This is what every step of a canvas keeps,
and all that the run of an attempt has to know.
-/

namespace ShaderSketch

open Surface

/-! ## Drawing -/

namespace Frame

open Gl

/-- The uniforms that a program for a source exposes. -/
def uniforms (source : String) : List String :=
  (Gl.Memory.joined Shader.vertexSource (Shader.prepare source)).uniforms

/-- The events of feeding a program. -/
def inputEvents (view : View) (source : String) (program rectangle : Handle) : List Event :=
  [.useProgram (some program), .bindBuffer (some rectangle),
    .attribPointer 0 Shader.cornerSize] ++
  (if Shader.resolution ∈ uniforms source then
    [.uniformVec2 Shader.resolution (Binary.ofNat .single view.width.toNat)
      (Binary.ofNat .single view.height.toNat)] else []) ++
  (if Shader.time ∈ uniforms source then [.uniformFloat Shader.time view.seconds] else [])

/-- The events of filling a new buffer for the rectangle, where there is none yet. -/
def fillingEvents (rectangle : Option Handle) (new : Handle) : List Event :=
  match rectangle with
  | some _ => []
  | none => [.bindBuffer (some new), .uploadBuffer Shader.cornerBytes.length]

/-- The events of painting a frame. -/
def paintEvents (view : View) (capture : Bool) : List Event :=
  [.viewport (side view.width) (side view.height), .clear background,
    .drawTriangleStrip 0 Shader.corners.length] ++
  (if capture then [.readPixels (side view.width) (side view.height)] else [])

/-- The bytes of a frame in memory, which is the background all over. -/
def blankPixels (view : View) (capture : Bool) : Pixels :=
  if capture then
    (List.replicate (Gl.Memory.pixelCount (side view.width) (side view.height))
      (background.channels.map Gl.Memory.channelByte)).flatten
  else []

end Frame

namespace Gl.Memory

open ShaderSketch.Frame

variable {g : Memory}

/-- The context with a buffer for the rectangle, which is bound and filled. -/
def furnished (g : Memory) : Memory :=
  { g with
    issued := g.issued + 1
    buffers := g.buffers.insert (g.issued + 1) ()
    buffersMade := g.buffersMade + 1
    events := g.events ++ [.bindBuffer (some (g.issued + 1)),
      .uploadBuffer Shader.cornerBytes.length] }

/-- The context with more events. -/
def recording (g : Memory) (events : List Event) : Memory := { g with events := g.events ++ events }

theorem recording_recording (g : Memory) (events events' : List Event) :
    (g.recording events).recording events' = g.recording (events ++ events') := by
  rw [recording, recording, recording, List.append_assoc]

/-- A program knows the places of the uniforms that it exposes, and no other. -/
theorem uniformLocation_of_get? {p : Handle} {program : Program}
    (h : g.programs.get? p = some program) (name : String) :
    g.uniformLocation p name = if name ∈ program.uniforms then some name else none := by
  show (g.programs.get? p).bind (fun program => program.uniforms.find? (· = name)) = _
  rw [h, Option.bind_some]
  split
  · next hmem =>
      obtain ⟨place, hplace⟩ := Option.isSome_iff_exists.mp
        (List.find?_isSome (p := (· = name)).mpr ⟨name, hmem, decide_eq_true rfl⟩)
      have heq : place = name := by simpa using List.find?_some hplace
      rw [hplace, heq]
  · next hmem =>
      refine List.find?_eq_none.mpr fun place hplace heq => hmem ?_
      rwa [← of_decide_eq_true heq]

/-- The fixed vertex stage has one attribute, in the first place. -/
theorem attribLocation_of_get? {p : Handle} {source : String}
    (h : g.programs.get? p = some (joined Shader.vertexSource source)) :
    g.attribLocation p Shader.position = some 0 := by
  have hattributes : (declaredNames "attribute" Shader.vertexSource.toList).idxOf? Shader.position =
      some 0 := by decide
  show (g.programs.get? p).bind (fun program => program.attributes.idxOf? Shader.position) = _
  rw [h, Option.bind_some]
  exact hattributes

end Gl.Memory

namespace MemorySurface

open ShaderSketch.Frame Routine Gl

variable {m : MemorySurface} {source : String}

theorem run_call_holding {β : Type} (c : Call String) (f : c.Answer → Routine String β)
    (g : Memory) :
    (call c >>= f).run plain (m.holding g) =
      (f (Memory.answer c g).1).run plain (m.holding (Memory.answer c g).2) := rfl

theorem run_call_on (c : Call String) (g : Memory) :
    (call c).run plain (m.holding g) = ((Memory.answer c g).1, m.holding (Memory.answer c g).2) :=
  rfl

theorem run_takeRectangle_barred (h : m.gl.barsBuffers = true) :
    (takeRectangle none).run plain m = (.error noRectangle, m) := by
  have hcreate : plain.answer (.gl .createBuffer) m =
      (.error "out of memory allocating buffer", m) := by
    rw [plain_gl, Memory.answer, Memory.createBuffer, if_pos h]
    rfl
  rw [takeRectangle, run_call_bind, hcreate]
  rfl

theorem run_takeRectangle_none (h : m.gl.barsBuffers = false) :
    (takeRectangle none).run plain m = (.ok (m.gl.issued + 1), m.holding m.gl.furnished) := by
  have hcreate := Memory.createBuffer_ok h
  rw [takeRectangle, run_call_bind, plain_gl, Memory.answer, hcreate]
  dsimp only
  rw [run_call_bind, plain_gl]
  dsimp only [Memory.answer]
  rw [holding_gl, Memory.uploadArrayBuffer, if_pos (Table.contains_insert _ _ _)]
  simp [Memory.record, Memory.furnished, holding]
  rfl

/-- Feeding a program that is there from a buffer that is there: every call is recorded and none is
refused. -/
theorem run_bindInputs {program rectangle : Handle}
    (hprogram : m.gl.programs.get? program =
      some (Memory.joined Shader.vertexSource (Shader.prepare source)))
    (hrectangle : m.gl.buffers.contains rectangle) (view : View) :
    (bindInputs view program rectangle).run plain m =
      ((), m.holding ({ m.gl with current := some program }.recording
        (inputEvents view source program rectangle))) := by
  obtain ⟨g, hg⟩ : ∃ g : Memory, g = { m.gl with current := some program } := ⟨_, rfl⟩
  rw [← hg]
  have huse : Memory.answer (.useProgram (some program)) m.gl =
      ((), g.recording [.useProgram (some program)]) := by
    rw [hg, Memory.answer, Memory.useProgram, if_pos (by simp [Table.contains, hprogram])]
    rfl
  have hbind (es : List Event) : Memory.answer (.bindArrayBuffer (some rectangle))
      (g.recording es) = ((), g.recording (es ++ [.bindBuffer (some rectangle)])) := by
    have hcontains : (some rectangle).all (g.recording es).buffers.contains := by
      rw [hg]
      exact hrectangle
    rw [← Memory.recording_recording, Memory.answer, Memory.bindArrayBuffer, if_pos hcontains]
    rfl
  have hget (es : List Event) : (g.recording es).programs.get? program =
      some (Memory.joined Shader.vertexSource (Shader.prepare source)) := by
    rw [hg]
    exact hprogram
  have hattrib (es : List Event) : Memory.answer (.attribLocation program Shader.position)
      (g.recording es) = (some 0, g.recording es) := by
    rw [Memory.answer, Memory.attribLocation_of_get? (hget es)]
  have huniform (es : List Event) (name : String) : Memory.answer (.uniformLocation program name)
      (g.recording es) = (if name ∈ uniforms source then some name else none, g.recording es) := by
    rw [Memory.answer, Memory.uniformLocation_of_get? (hget es)]
    rfl
  have hpointer (es : List Event) : Memory.answer (.floatAttribPointer 0 Shader.cornerSize)
      (g.recording es) = ((), g.recording (es ++ [.attribPointer 0 Shader.cornerSize])) := by
    rw [← Memory.recording_recording]
    rfl
  have hvec2 (es : List Event) (x y : Binary) : Memory.answer (.uniformVec2 Shader.resolution x y)
      (g.recording es) = ((), g.recording (es ++ [.uniformVec2 Shader.resolution x y])) := by
    rw [← Memory.recording_recording]
    rfl
  have hfloat (es : List Event) (x : Binary) : Memory.answer (.uniformFloat Shader.time x)
      (g.recording es) = ((), g.recording (es ++ [.uniformFloat Shader.time x])) := by
    rw [← Memory.recording_recording]
    rfl
  show (bindInputs view program rectangle).run plain (m.holding m.gl) = _
  rw [bindInputs, run_call_holding, huse]
  dsimp only
  rw [run_call_holding, hbind, run_call_holding, hattrib]
  dsimp only
  rw [run_call_holding, hpointer, run_call_holding, huniform]
  -- a uniform that is exposed is fed by one call more
  by_cases hresolution : Shader.resolution ∈ uniforms source
  case' pos =>
    rw [if_pos hresolution]
    dsimp only
    rw [run_call_holding, hvec2]
  case' neg =>
    rw [if_neg hresolution]
    dsimp only
  all_goals
    rw [run_call_holding, huniform]
    by_cases htime : Shader.time ∈ uniforms source
    · rw [if_pos htime]
      dsimp only
      rw [run_call_on, hfloat]
      simp [inputEvents, hresolution, htime]
    · rw [if_neg htime]
      simp [inputEvents, hresolution, htime]
      rfl

/-- With a program current, painting is recorded as it is asked for, and what is read back is the
background. -/
theorem run_paint (h : m.gl.current.isSome) (view : View) (capture : Bool) :
    (paint view capture).run plain m =
      (blankPixels view capture, m.holding (m.gl.recording (paintEvents view capture))) := by
  have hviewport : Memory.answer (.viewport (side view.width) (side view.height)) m.gl =
      ((), m.gl.recording [.viewport (side view.width) (side view.height)]) := rfl
  have hclear (es : List Event) : Memory.answer (.clearColor background) (m.gl.recording es) =
      ((), m.gl.recording (es ++ [.clear background])) := by
    rw [← Memory.recording_recording]
    rfl
  have hdraw (es : List Event) : Memory.answer (.drawTriangleStrip 0 Shader.corners.length)
      (m.gl.recording es) =
      ((), m.gl.recording (es ++ [.drawTriangleStrip 0 Shader.corners.length])) := by
    rw [← Memory.recording_recording, Memory.answer,
      if_pos (show (m.gl.recording es).current.isSome from h)]
    rfl
  show (paint view capture).run plain (m.holding m.gl) = _
  rw [paint, run_call_holding, hviewport, run_call_holding, hclear, run_call_holding, hdraw]
  cases capture with
  | false => rfl
  | true =>
      have htexel : (m.gl.recording (([.viewport (side view.width) (side view.height)] ++
          [.clear background]) ++ [.drawTriangleStrip 0 Shader.corners.length])).texel =
            background.channels.map Memory.channelByte := by
        have hclears : (m.gl.recording (([.viewport (side view.width) (side view.height)] ++
            [.clear background]) ++ [.drawTriangleStrip 0 Shader.corners.length])).clears =
              m.gl.clears ++ [background] := List.filterMap_append
        rw [Memory.texel, hclears, List.getLast?_concat]
      rw [if_pos rfl, run_call_on, Memory.answer, htexel]
      refine congrArg (fun g => (_, m.holding g)) ?_
      exact Memory.recording_recording _ _ _

/-! ## Whole attempts -/

/-- A surface on which no attempt is under way: no shader and no program is left, and the rectangle
is the only buffer.  The tables have to be empty and not just without the current program, since new
objects are found in them by their numbers.  The number of the rectangle was given out, so that no
new object has it. -/
structure AtRest (m : MemorySurface) (rectangle : Option Handle) : Prop where
  shaders : m.gl.shaders = {}
  programs : m.gl.programs = {}
  buffers : m.gl.buffers.handles = rectangle.toList
  numbered : ∀ b ∈ rectangle, b ≤ m.gl.issued
  held : rectangle.isSome → m.hasContext

theorem rest_new (h : m.gl = {}) : m.AtRest none :=
  ⟨by rw [h], by rw [h], by rw [h]; rfl, nofun, nofun⟩

/-- What an attempt on a surface is going to come to. -/
def forecast (m : MemorySurface) (rectangle : Option Handle) (source : String) :
    Except Canvas.Failure Unit :=
  if m.hasContext then
    match m.gl.assembly source with
    | .error e => .error e
    | .ok _ =>
      if rectangle.isNone && m.gl.barsBuffers then .error noRectangle else m.present.1
  else .error .noContext

end MemorySurface

/-- Whether a failure comes after the frame was drawn. -/
def Canvas.Failure.late : Failure → Bool
  | .showing _ => true
  | _ => false

/-- Whether an attempt with a given result drew. -/
def Frame.drew {α : Type} : Except Canvas.Failure α → Bool
  | .ok _ => true
  | .error e => e.late

/-- Before it drew, an attempt got as far as a good one. -/
theorem Frame.traces_of_drew {source : String} {result : Except Canvas.Failure Unit}
    (h : drew result = true) : traces source result = traces source (.ok ()) := by
  cases result with
  | ok _ => rfl
  | error e =>
      cases e with
      | showing reason => rfl
      | _ => cases h

namespace Gl.Memory

open ShaderSketch.Frame

/-- The context with a buffer for the rectangle: the one at hand, or a new one. -/
def provided (g : Memory) : Option Handle → Memory
  | some _ => g
  | none => g.furnished

/-- The context after an attempt that drew. -/
def drawn (g : Memory) (rectangle : Option Handle) (source : String) (view : View)
    (capture : Bool) : Memory :=
  { (g.traced (traces source (.ok ()))).provided rectangle with
    current := some (g.issued + 3) }.recording
      (inputEvents view source (g.issued + 3) (rectangle.getD (g.issued + 4)) ++
        paintEvents view capture)

/-- The events of an attempt that drew, in order: its traces, the filling of a new buffer, the
inputs, and the frame. -/
theorem drawn_events (g : Memory) (rectangle : Option Handle) (source : String) (view : View)
    (capture : Bool) :
    (g.drawn rectangle source view capture).events =
      g.events ++ ((traces source (.ok ())).events ++ (fillingEvents rectangle (g.issued + 4) ++
        (inputEvents view source (g.issued + 3) (rectangle.getD (g.issued + 4)) ++
          paintEvents view capture))) := by
  cases rectangle with
  | some b =>
      simp only [drawn, provided, recording, traced, fillingEvents, List.append_assoc,
        List.nil_append]
  | none =>
      simp only [drawn, provided, furnished, recording, traced, fillingEvents, List.append_assoc]
      rfl

/-- What is barred stays barred. -/
theorem drawn_bars (g : Memory) (rectangle : Option Handle) (source : String) (view : View)
    (capture : Bool) :
    (g.drawn rectangle source view capture).barredStage = g.barredStage ∧
      (g.drawn rectangle source view capture).barsPrograms = g.barsPrograms ∧
      (g.drawn rectangle source view capture).barsBuffers = g.barsBuffers := by
  cases rectangle <;> exact ⟨rfl, rfl, rfl⟩

theorem drawn_compiled (g : Memory) (rectangle : Option Handle) (source : String) (view : View)
    (capture : Bool) :
    (g.drawn rectangle source view capture).compiled =
      g.compiled ++ (traces source (.ok ())).texts := by
  cases rectangle <;> rfl

/-- A program that could not be made was never drawn with. -/
theorem not_drew_of_assembly {g : Memory} {source : String} {e : Canvas.Failure}
    (h : g.assembly source = .error e) : drew (.error e : Except Canvas.Failure Unit) = false := by
  unfold assembly at h
  split at h
  · cases h
    rfl
  · split at h
    · cases h
      rfl
    · split at h
      · cases h
        rfl
      · split at h
        · cases h
          rfl
        · cases hcheck : checkStages Shader.vertexSource.toList (Shader.prepare source).toList with
          | ok _ => rw [hcheck] at h; cases h
          | error log => rw [hcheck] at h; cases h; rfl

theorem work_eq_traced {g : Memory} (hshaders : g.shaders = {}) (hprograms : g.programs = {})
    (t : Traces) : g.work t {} {} = g.traced t := by
  rw [work, ← hshaders, ← hprograms]
  rfl

end Gl.Memory

namespace MemorySurface

open ShaderSketch.Frame Routine Gl

variable {m : MemorySurface} {source : String}

theorem present_holding (m : MemorySurface) (g : Memory) :
    (m.holding g).present = (m.present.1, m.present.2.holding g) := by
  unfold present
  cases hfailure : m.nextFailure <;> simp [holding, hfailure]

theorem drew_present (m : MemorySurface) : drew m.present.1 = true := by
  unfold present
  split <;> rfl

/-- The surface with the program for a source, and nothing else under way. -/
def ready (m : MemorySurface) (source : String) : MemorySurface :=
  m.atWork (traces source (.ok ())) {} (Table.insert {} (m.gl.issued + 3)
    (Memory.joined Shader.vertexSource (Shader.prepare source)))

/-- There is a buffer for the rectangle, unless buffers are barred. -/
theorem run_takeRectangle_ready {rectangle : Option Handle}
    (h : rectangle.isNone → m.gl.barsBuffers = false) :
    (takeRectangle rectangle).run plain (m.ready source) =
      (.ok (rectangle.getD (m.gl.issued + 4)),
        (m.ready source).holding ((m.ready source).gl.provided rectangle)) := by
  cases rectangle with
  | some b => rfl
  | none => exact run_takeRectangle_none (h rfl)

/-- Drawing a frame leaves the rectangle and nothing else. -/
theorem run_drawing {β : Type} {rectangle : Option Handle} (rest : m.AtRest rectangle)
    (view : View) (capture : Bool) (f : Pixels → Routine String β) :
    (bindInputs view (m.gl.issued + 3) (rectangle.getD (m.gl.issued + 4)) >>= fun _ =>
      paint view capture >>= fun pixels =>
      call (.deleteProgram (m.gl.issued + 3)) >>= fun _ => f pixels).run plain
        ((m.ready source).holding ((m.ready source).gl.provided rectangle)) =
      (f (blankPixels view capture)).run plain
        (m.holding (m.gl.drawn rectangle source view capture)) := by
  have hprogram : ((m.ready source).gl.provided rectangle).programs.get? (m.gl.issued + 3) =
      some (Memory.joined Shader.vertexSource (Shader.prepare source)) := by
    cases rectangle <;> exact Table.get?_insert_self _ _ _
  have hbuffer : ((m.ready source).gl.provided rectangle).buffers.contains
      (rectangle.getD (m.gl.issued + 4)) := by
    cases rectangle with
    | none => exact Table.contains_insert _ _ _
    | some b =>
        refine (Table.contains_iff _ _).mpr ?_
        show b ∈ m.gl.buffers.handles
        rw [rest.buffers]
        exact List.mem_singleton_self b
  have hdelete : (({ (m.ready source).gl.provided rectangle with
      current := some (m.gl.issued + 3) }.recording (inputEvents view source (m.gl.issued + 3)
        (rectangle.getD (m.gl.issued + 4)))).recording (paintEvents view capture)).deleteProgram
          (m.gl.issued + 3) = m.gl.drawn rectangle source view capture := by
    rw [Memory.recording_recording, Memory.drawn,
      ← Memory.work_eq_traced rest.shaders rest.programs]
    cases rectangle <;> exact Memory.deleteProgram_of_insert rfl (not_mem_handles_empty _)
  rw [run_bind, run_bindInputs hprogram hbuffer]
  dsimp only
  rw [run_bind, run_paint rfl]
  exact congrArg (fun g => (f _).run plain (m.holding g)) hdelete

/-- **An attempt comes to what was forecast**, and leaves its traces; one that drew leaves the
rectangle besides.  Rest buys that the forecast, which looks at the switches and the failures to
come and never at a table, decides everything. -/
theorem run_attempt_eq {rectangle : Option Handle} (rest : m.AtRest rectangle) (source : String)
    (capture : Bool) :
    (Frame.attempt (plain.view m) rectangle source capture).run plain m =
      (((m.forecast rectangle source).map fun _ => blankPixels (plain.view m) capture,
          if drew (m.forecast rectangle source) then some (rectangle.getD (m.gl.issued + 4))
          else rectangle),
        if drew (m.forecast rectangle source) then
          m.present.2.holding (m.gl.drawn rectangle source (plain.view m) capture)
        else m.holding (m.gl.traced (traces source (m.forecast rectangle source)))) := by
  unfold forecast
  by_cases hcontext : m.hasContext
  swap
  · rw [if_neg hcontext, Frame.attempt,
      if_neg (show ¬(plain.view m).hasContext = true from hcontext)]
    simp [drew, traces, Memory.traced, holding]
    rfl
  have hassembled := run_assembled_eq m source
  have hstart : m.atWork {} {} {} = m := by
    rw [atWork, Memory.work_start rest.shaders rest.programs]
    rfl
  rw [hstart] at hassembled
  rw [if_pos hcontext, Frame.attempt, if_pos (show (plain.view m).hasContext from hcontext),
    attemptOn, run_bind, hassembled]
  cases hassembly : m.gl.assembly source with
  | error e =>
      dsimp only
      rw [Memory.not_drew_of_assembly hassembly, atWork,
        Memory.work_eq_traced rest.shaders rest.programs]
      rfl
  | ok _ =>
      dsimp only
      rw [run_bind, ← ready]
      by_cases hbarred : rectangle.isNone ∧ m.gl.barsBuffers
      · obtain ⟨hnone, hbuffers⟩ := hbarred
        obtain rfl := Option.isNone_iff_eq_none.mp hnone
        rw [if_pos (by simp [hbuffers]), run_takeRectangle_barred (m := m.ready source) hbuffers]
        dsimp only
        rw [ready, atWork, run_call_holding, Memory.answer,
          Memory.deleteProgram_work (not_mem_handles_empty _),
          Memory.work_eq_traced rest.shaders rest.programs]
        rfl
      · rw [if_neg (by simpa using hbarred), run_takeRectangle_ready (by simpa using hbarred)]
        dsimp only
        rw [run_drawing rest, run_present_bind]
        have hshown : plain.answer .present
            (m.holding (m.gl.drawn rectangle source (plain.view m) capture)) =
              (m.present.1, m.present.2.holding
                (m.gl.drawn rectangle source (plain.view m) capture)) := present_holding m _
        rw [hshown, if_pos (drew_present m), if_pos (drew_present m)]
        cases m.present.1 <;> rfl

/-! ## Incidents -/

/-- What can happen to a surface in memory: its size changes, its clock goes on, the next frame is
not going to be shown, or objects cannot be had any more. -/
inductive Incident
  | resize (width height : UInt32)
  | wait (seconds : Binary)
  | spoilNextFrame (reason : String)
  | barShaders (stage : Stage)
  | barPrograms
  | barBuffers

/-- The surface after an incident. -/
def happen (m : MemorySurface) : Incident → MemorySurface
  | .resize width height => m.resize width height
  | .wait seconds => { m with seconds }
  | .spoilNextFrame reason => m.spoilNextFrame reason
  | .barShaders stage => m.holding (m.gl.barShaders stage)
  | .barPrograms => m.holding m.gl.barPrograms
  | .barBuffers => m.holding m.gl.barBuffers

/-- An attempt to show a frame spends the failure that is due, and else the frame is counted. -/
theorem present_snd (m : MemorySurface) :
    m.present.2 =
      { m with
        shown := m.shown + if m.present.1.isOk then 1 else 0
        nextFailure := none } := by
  obtain ⟨width, height, hasContext, gl, shown, nextFailure, seconds⟩ := m
  cases nextFailure <;> rfl

theorem hasContext_present (m : MemorySurface) : m.present.2.hasContext = m.hasContext := by
  rw [present_snd]

theorem hasContext_answer (request : Request String) (m : MemorySurface) (h : m.hasContext) :
    (plain.answer request m).2.hasContext := by
  cases request with
  | gl call => exact h
  | present => exact m.hasContext_present.trans h

theorem hasContext_happen (incident : Incident) (m : MemorySurface) (h : m.hasContext) :
    (m.happen incident).hasContext := by
  cases incident <;> exact h

/-- The surface in memory, with everything that can happen to it. -/
def troubled : World MemorySurface Incident String where
  toSurface := plain
  happen incident m := m.happen incident
  hasContext_answer := hasContext_answer
  hasContext_happen := hasContext_happen

/-- An incident does not touch what is in the tables. -/
theorem AtRest.happen {rectangle : Option Handle} (h : m.AtRest rectangle) (incident : Incident) :
    (m.happen incident).AtRest rectangle := by
  cases incident <;> exact ⟨h.shaders, h.programs, h.buffers, h.numbered, h.held⟩

/-- An attempt that draws comes to what showing the frame comes to. -/
theorem forecast_of_drew {rectangle : Option Handle} (h : drew (m.forecast rectangle source)) :
    m.forecast rectangle source = m.present.1 := by
  unfold forecast at h ⊢
  by_cases hcontext : m.hasContext
  · rw [if_pos hcontext] at h ⊢
    cases hassembly : m.gl.assembly source with
    | error e =>
        rw [hassembly, Memory.not_drew_of_assembly hassembly] at h
        cases h
    | ok _ =>
        rw [hassembly] at h
        dsimp only at h ⊢
        split at h
        · cases h
        · next hroom => rw [if_neg hroom]
  · rw [if_neg hcontext] at h
    cases h

theorem hasContext_of_drew {rectangle : Option Handle}
    (h : drew (m.forecast rectangle source)) : m.hasContext := by
  unfold forecast at h
  split at h
  · assumption
  · cases h

end MemorySurface

/-! ## Canvases -/

namespace Canvas

open ShaderSketch.Frame Gl MemorySurface

variable {c : Canvas MemorySurface}

/-- What an attempt on a canvas is going to come to. -/
def forecast (c : Canvas MemorySurface) (source : String) : Except Failure Unit :=
  c.surface.forecast c.rectangle source

/-- The canvas that an attempt leaves. -/
def afterwards (c : Canvas MemorySurface) (source : String) (capture : Bool) :
    Canvas MemorySurface :=
  if drew (c.forecast source) then
    { surface := c.surface.present.2.holding
        (c.surface.gl.drawn c.rectangle source (plain.view c.surface) capture)
      rectangle := some (c.rectangle.getD (c.surface.gl.issued + 4))
      frames := if (c.forecast source).isOk then c.frames + 1 else c.frames }
  else
    { c with
      surface := c.surface.holding (c.surface.gl.traced (traces source (c.forecast source))) }

theorem isOk_of_not_drew {result : Except Failure Unit} (h : drew result = false) :
    result.isOk = false := by
  cases result with
  | ok _ => cases h
  | error e => rfl

/-- What an attempt draws: nothing, if it does not get there. -/
def drawing (c : Canvas MemorySurface) (source : String) (capture : Bool) : List Event :=
  if drew (c.forecast source) then
    fillingEvents c.rectangle (c.surface.gl.issued + 4) ++
      (inputEvents (plain.view c.surface) source (c.surface.gl.issued + 3)
        (c.rectangle.getD (c.surface.gl.issued + 4)) ++
      paintEvents (plain.view c.surface) capture)
  else []

/-- The events of an attempt are its traces and what it draws. -/
theorem events_afterwards (c : Canvas MemorySurface) (source : String) (capture : Bool) :
    (c.afterwards source capture).surface.gl.events =
      c.surface.gl.events ++
        ((traces source (c.forecast source)).events ++ c.drawing source capture) := by
  rw [afterwards, drawing]
  by_cases hdrew : drew (c.forecast source)
  · rw [if_pos hdrew, if_pos hdrew, traces_of_drew hdrew]
    exact c.surface.gl.drawn_events _ _ _ _
  · rw [if_neg hdrew, if_neg hdrew, List.append_nil]
    rfl

theorem compiled_afterwards (c : Canvas MemorySurface) (source : String) (capture : Bool) :
    (c.afterwards source capture).surface.gl.compiled =
      c.surface.gl.compiled ++ (traces source (c.forecast source)).texts := by
  rw [afterwards]
  by_cases hdrew : drew (c.forecast source)
  · rw [if_pos hdrew, traces_of_drew hdrew]
    exact c.surface.gl.drawn_compiled _ _ _ _
  · rw [if_neg hdrew]
    rfl

theorem frames_afterwards (c : Canvas MemorySurface) (source : String) (capture : Bool) :
    (c.afterwards source capture).frames =
      c.frames + if (c.forecast source).isOk then 1 else 0 := by
  rw [afterwards]
  by_cases hdrew : drew (c.forecast source)
  · rw [if_pos hdrew]
    exact (apply_ite (c.frames + ·) _ 1 0).symm
  · rw [if_neg hdrew, isOk_of_not_drew (Bool.eq_false_of_not_eq_true hdrew)]
    rfl

theorem shown_afterwards (c : Canvas MemorySurface) (source : String) (capture : Bool) :
    (c.afterwards source capture).surface.shown =
      c.surface.shown + if (c.forecast source).isOk then 1 else 0 := by
  rw [afterwards]
  by_cases hdrew : drew (c.forecast source)
  · rw [if_pos hdrew, show c.forecast source = c.surface.present.1 from forecast_of_drew hdrew]
    exact congrArg MemorySurface.shown c.surface.present_snd
  · rw [if_neg hdrew, isOk_of_not_drew (Bool.eq_false_of_not_eq_true hdrew)]
    rfl

/-- **An attempt comes to what was forecast**, if the surface is at rest.  What is proved of
attempts in memory is proved of `afterwards`, and no routine is run for it again. -/
theorem attempt_eq_forecast (rest : c.surface.AtRest c.rectangle) (source : String)
    (capture : Bool) :
    c.attempt plain source capture =
      ((c.forecast source).map fun _ => blankPixels (plain.view c.surface) capture,
        c.afterwards source capture) := by
  have hisOk (result : Except Failure Unit) (pixels : Pixels) :
      (result.map fun _ => pixels).isOk = result.isOk := by cases result <;> rfl
  rw [attempt_eq, run_attempt_eq rest, settle, afterwards, ← forecast]
  dsimp only
  rw [hisOk]
  cases hdrew : drew (c.forecast source) with
  | true => rfl
  | false =>
      rw [isOk_of_not_drew hdrew]
      rfl

/-- An attempt that drew leaves the rectangle, which is the newest number or the one that was there;
one that did not leaves the tables as they were. -/
theorem rest_attempt (rest : c.surface.AtRest c.rectangle) (source : String) (capture : Bool) :
    (c.attempt plain source capture).2.surface.AtRest
      (c.attempt plain source capture).2.rectangle := by
  rw [attempt_eq_forecast rest, afterwards]
  split
  · next hdrew =>
      have hcontext := (c.surface.hasContext_present).trans (hasContext_of_drew hdrew)
      cases hrectangle : c.rectangle with
      | some b =>
          refine ⟨rest.shaders, rest.programs, ?_, ?_, fun _ => hcontext⟩
          · exact rest.buffers.trans (by rw [hrectangle]; rfl)
          · rintro _ ⟨⟩
            exact Nat.le_trans (rest.numbered b hrectangle) (Nat.le_add_right _ _)
      | none =>
          refine ⟨rest.shaders, rest.programs, ?_, ?_, fun _ => hcontext⟩
          · show (c.surface.gl.buffers.insert (c.surface.gl.issued + 4) ()).handles = _
            rw [Table.handles_insert, rest.buffers, hrectangle]
            rfl
          · rintro _ ⟨⟩
            exact Nat.le_refl _
  · refine ⟨rest.shaders, rest.programs, rest.buffers, fun b hb => ?_, rest.held⟩
    exact Nat.le_trans (rest.numbered b hb) (Nat.le_add_right _ _)

/-- **A release leaves no buffer.**  At rest there is no buffer but the rectangle; else a buffer
that is not the canvas's own would stay. -/
theorem release_eq (rest : c.surface.AtRest c.rectangle) :
    c.release plain =
      { surface := c.surface.holding { c.surface.gl with buffers := {} }
        rectangle := none
        frames := c.frames } := by
  obtain ⟨surface, rectangle, frames⟩ := c
  have hempty {t : Table Unit} (h : t.handles = []) : t = {} :=
    congrArg Table.mk (List.map_eq_nil_iff.mp h)
  cases rectangle with
  | none =>
      have hbuffers : surface.gl.buffers = {} := hempty rest.buffers
      rw [release, ite_self, ← hbuffers]
      rfl
  | some b =>
      have hcontains : surface.gl.buffers.contains b := by
        rw [Table.contains_iff, rest.buffers]
        exact List.mem_singleton_self b
      have herase : surface.gl.buffers.erase b = {} := by
        refine hempty ?_
        rw [Table.handles_erase, rest.buffers]
        simp
      have hdelete : surface.gl.deleteBuffer b = { surface.gl with buffers := {} } := by
        rw [Memory.deleteBuffer, if_pos hcontains, herase]
      rw [release, if_pos (show (plain.view surface).hasContext from rest.held rfl)]
      exact congrArg (fun g => Canvas.mk (surface.holding g) none frames) hdelete

theorem rest_release (rest : c.surface.AtRest c.rectangle) :
    (c.release plain).surface.AtRest (c.release plain).rectangle := by
  rw [release_eq rest]
  exact ⟨rest.shaders, rest.programs, rfl, nofun, nofun⟩

/-- **The surface of a canvas stays at rest**, whatever is done with the canvas.  Failures are no
exception: an attempt that ends early takes its objects with it, and so every later one starts as
the first did. -/
theorem rest_life (rest : c.surface.AtRest c.rectangle) (life : List (Step Incident)) :
    (c.steps troubled life).surface.AtRest (c.steps troubled life).rectangle := by
  refine steps_induction (w := troubled) (P := fun c => c.surface.AtRest c.rectangle) ?_ ?_ ?_
    rest life
  · intro c source capture rest
    exact rest_attempt rest source capture
  · intro c rest
    exact rest_release rest
  · intro c what rest
    exact rest.happen what

/-- In every life of a canvas on a new surface in memory, the surface is at rest. -/
theorem rest_steps {m : MemorySurface} (h : m.gl = {}) (life : List (Step Incident)) :
    (({ surface := m } : Canvas _).steps troubled life).surface.AtRest
      (({ surface := m } : Canvas _).steps troubled life).rectangle :=
  rest_life (c := { surface := m }) (MemorySurface.rest_new h) life

end Canvas

end ShaderSketch
