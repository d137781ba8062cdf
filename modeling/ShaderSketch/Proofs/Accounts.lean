import ShaderSketch.Proofs.Backends
import ShaderSketch.Proofs.Forecast

/-!
# Frames and their accounts

A canvas and its surface both count frames, and the context keeps what it was told to do.  All these
counts agree, in every life of a canvas on a surface in memory.

## Main definitions

* `Canvas.Trial`, `Canvas.trials` — an attempt as it was made, and all of them in a life
* `Canvas.returns` — how many rectangles were given back in a life
* `Canvas.Accounts` — how the counts of a canvas, its surface and its context go together

## Main results

* `Canvas.accounts_attempt`, `Canvas.accounts_release`, `Canvas.accounts_happen` : what one step
  adds to the accounts
* `Canvas.frames_accounted` : the accounts are kept in every life

## Design notes

What a trial got to is read off what was said in it, and not off its result.  That both tell the
same is a theorem, `Frame.Attempting.draws` and `Frame.Attempting.compiles`, about every honest
surface.
-/

namespace ShaderSketch

open Surface

variable {σ κ ℓ : Type}

/-! ## What a conversation got to -/

namespace Surface

/-- The shaders that an exchange compiles. -/
def Exchange.compiled : Exchange ℓ → List Gl.Handle
  | ⟨.gl (.compileShader h), _⟩ => [h]
  | _ => []

/-- Whether some shader that was made for a stage is compiled in a conversation. -/
def compiles (stage : Gl.Stage) (said : List (Exchange ℓ)) : Bool :=
  (said.flatMap Exchange.compiled).any fun h => (h, stage) ∈ said.flatMap Exchange.staged

end Surface

/-- Whether a failure comes before the fragment stage is compiled. -/
def Canvas.Failure.early : Failure → Bool
  | .noContext | .allocation (.shader _) _ | .compilation .vertex _ => true
  | _ => false

namespace Frame

open Gl

variable {α : Type} {said : List (Exchange ℓ)}

/-- Whether an attempt with a given result got as far as compiling the fragment stage. -/
def compiledFragment : Except Canvas.Failure α → Bool
  | .ok _ => true
  | .error e => !e.early

/-- A fragment stage is compiled just if the result says so. -/
theorem Assembling.compiles {source : String} {result : Except Canvas.Failure Handle}
    (h : Assembling source said result) :
    Surface.compiles .fragment said = compiledFragment result := by
  unfold Surface.compiles compiledFragment
  cases h with
  | noVertex vertexStage =>
      cases vertexStage <;> simp [Exchange.compiled, Exchange.staged, Canvas.Failure.early]
  | noFragment vertexStage fragmentStage =>
      cases vertexStage
      cases fragmentStage <;> simp [Exchange.compiled, Exchange.staged, Canvas.Failure.early]
  | joined vertexStage fragmentStage link =>
      cases vertexStage
      cases fragmentStage
      cases link <;> simp [Exchange.compiled, Exchange.staged, Canvas.Failure.early, joining]

theorem not_late {e : Canvas.Failure} (h : ∀ reason, e ≠ .showing reason) : e.late = false := by
  cases e with
  | showing reason => exact absurd rfl (h reason)
  | _ => rfl

/-- What is said without a word on shaders compiles nothing. -/
theorem compiles_append {stage : Stage} {said' : List (Exchange ℓ)}
    (h : ∀ e ∈ said', e.compiled = [] ∧ e.staged = []) :
    Surface.compiles stage (said ++ said') = Surface.compiles stage said := by
  have hcompiled : said'.flatMap Exchange.compiled = [] :=
    List.flatMap_eq_nil_iff.mpr fun e he => (h e he).1
  have hstaged : said'.flatMap Exchange.staged = [] :=
    List.flatMap_eq_nil_iff.mpr fun e he => (h e he).2
  rw [Surface.compiles, List.flatMap_append, List.flatMap_append, hcompiled, hstaged,
    List.append_nil, List.append_nil]
  rfl

variable {view : View} {rectangle : Option Handle} {source : String} {capture : Bool}
  {outcome : Except Canvas.Failure Pixels × Option Handle}

/-- A fragment stage is compiled in an attempt just if its result says so.  Honesty is asked of one
answer only, the last: if it says that the frame cannot be shown, then the result says so too, and
the stage was compiled long before. -/
theorem Attempting.compiles (h : Attempting view rectangle source capture said outcome)
    (honest : ∀ e ∈ said, e.Honest) :
    Surface.compiles .fragment said = compiledFragment outcome.1 := by
  cases h with
  | noContext => rfl
  | noProgram _ failed => exact failed.compiles
  | noRectangle _ assembled =>
      rw [compiles_append (by simp [Exchange.compiled, Exchange.staged])]
      exact assembled.compiles
  | finished _ assembled holding position resolution time painting shown =>
      rw [compiles_append, assembled.compiles]
      · cases shown with
        | ok _ => rfl
        | error e =>
            obtain ⟨reason, rfl⟩ := honest ⟨.present, .error e⟩ (by simp)
            rfl
      · simp only [List.forall_mem_append]
        refine ⟨?_, ?_, ?_, by simp [Exchange.compiled, Exchange.staged]⟩
        · cases holding <;> simp [Exchange.compiled, Exchange.staged]
        · cases position <;> cases resolution <;> cases time <;>
            simp [feeding, Exchange.compiled, Exchange.staged]
        · cases painting <;> simp [strokes, Exchange.compiled, Exchange.staged]

/-- Something is drawn just if the result says so.  A result that tells of a frame that could not be
shown is the only failure with a frame drawn, and an honest surface fails in no other way once it
was. -/
theorem Attempting.draws (h : Attempting view rectangle source capture said outcome)
    (honest : ∀ e ∈ said, e.Honest) : said.any Exchange.draws = drew outcome.1 := by
  have hbuilds {said : List (Exchange ℓ)} (h : ∀ e ∈ said, e.builds) :
      said.any Exchange.draws = false :=
    List.any_eq_false.mpr fun e he => by simp [Exchange.draws_of_builds (h e he)]
  cases h with
  | noContext => rfl
  | noProgram _ failed =>
      rw [hbuilds failed.builds]
      exact (not_late failed.early.2).symm
  | noRectangle _ assembled =>
      rw [List.any_append, hbuilds assembled.builds]
      rfl
  | finished _ assembled holding position resolution time painting shown =>
      have hpainting : ∀ {c x} {said : List (Exchange ℓ)}, Painting view c said x →
          said.any Exchange.draws = true := by
        rintro c x said ⟨⟩ <;> rfl
      have hdrew : drew (shown.map fun _ => ()) = true := by
        cases shown with
        | ok _ => rfl
        | error e =>
            obtain ⟨reason, rfl⟩ := honest ⟨.present, .error e⟩ (by simp)
            rfl
      simp only [List.any_append, hpainting painting, Bool.true_or, Bool.or_true]
      cases shown <;> exact hdrew.symm

end Frame

/-! ## Trials -/

namespace Canvas

open ShaderSketch.Frame Gl MemorySurface

/-- An attempt that was made: its source, whether the frame was to be captured, what was said, and
what came of it.  Neither `drew` nor `compiledFragment` looks at the result, so that the accounts
compare two things that are known apart from each other. -/
structure Trial (ℓ : Type) where
  source : String
  capture : Bool
  said : List (Exchange ℓ)
  result : Except Failure Pixels

namespace Trial

/-- Whether something was drawn. -/
def drew (t : Trial ℓ) : Bool := t.said.any Exchange.draws

/-- Whether a fragment stage was compiled. -/
def compiledFragment (t : Trial ℓ) : Bool := compiles .fragment t.said

/-- Whether the frame was not shown in the end. -/
def unshown (t : Trial ℓ) : Bool :=
  match t.result with
  | .error (.showing _) => true
  | _ => false

end Trial

/-- The trial that an attempt on a canvas is. -/
def trial (s : Surface σ ℓ) (source : String) (capture : Bool) (c : Canvas σ) : Trial ℓ :=
  ⟨source, capture, c.said s source capture, (c.attempt s source capture).1⟩

/-- The trial in a step: one when something is drawn, captured or saved, but none when something is
saved from a surface without pixels. -/
def tried (w : World σ κ ℓ) (c : Canvas σ) : Step κ → List (Trial ℓ)
  | .draw source => [c.trial w.toSurface source false]
  | .capture source => [c.trial w.toSurface source true]
  | .save source _ _ =>
    if (w.view c.surface).width = 0 ∨ (w.view c.surface).height = 0 then []
    else [c.trial w.toSurface source true]
  | .release | .change _ => []

/-- The trials in the life of a canvas. -/
def trials (w : World σ κ ℓ) : Canvas σ → List (Step κ) → List (Trial ℓ)
  | _, [] => []
  | c, t :: life => c.tried w t ++ trials w (c.step w t) life

/-- How many rectangles a step gives back: one when the canvas is released and has it. -/
def returned (c : Canvas σ) : Step κ → Nat
  | .release => if c.rectangle.isSome then 1 else 0
  | _ => 0

/-- How many rectangles were given back in the life of a canvas. -/
def returns (w : World σ κ ℓ) : Canvas σ → List (Step κ) → Nat
  | _, [] => 0
  | c, t :: life => c.returned t + returns w (c.step w t) life

end Canvas

/-- How many frames were read back. -/
def Gl.Memory.readBacks (m : Memory) : Nat :=
  m.events.countP fun | .readPixels _ _ => true | _ => false

namespace Canvas

open ShaderSketch.Frame Gl MemorySurface

/-- The accounts of a canvas on a surface in memory, after some trials and with some rectangles
given back.  The trials are kept beside the canvas, since a canvas does not remember an attempt that
failed, and every equation but the first two counts those as well. -/
structure Accounts (c : Canvas MemorySurface) (trials : List (Trial String)) (returns : Nat) :
    Prop where
  shown : c.frames = c.surface.shown
  clears : c.surface.gl.stripsDrawn = c.surface.gl.clears.length
  strips : c.surface.gl.stripsDrawn = c.frames + trials.countP Trial.unshown
  reads : c.surface.gl.readBacks = trials.countP fun t => t.capture && t.drew
  buffers : c.surface.gl.buffersMade = c.surface.gl.buffers.size + returns
  vertex : ∀ text ∈ c.surface.gl.sourcesOf .vertex, text = Shader.vertexSource
  fragment : c.surface.gl.sourcesOf .fragment =
    (trials.filter Trial.compiledFragment).map fun t => Shader.prepare t.source

variable {c : Canvas MemorySurface} {ts : List (Trial String)} {n : Nat}

theorem drew_trial (source : String) (capture : Bool) (c : Canvas MemorySurface) :
    (c.trial plain source capture).drew = drew (c.attempt plain source capture).1 :=
  (c.attempting_said plain source capture).draws (plain_failsShowing.honest_said _ _)

theorem compiledFragment_trial (source : String) (capture : Bool) (c : Canvas MemorySurface) :
    (c.trial plain source capture).compiledFragment =
      compiledFragment (c.attempt plain source capture).1 :=
  (c.attempting_said plain source capture).compiles (plain_failsShowing.honest_said _ _)

end Canvas

/-! ## Counting -/

namespace Gl

/-- Whether an event is a stroke of painting a frame: it is cleared, drawn or read back. -/
def Event.paints : Event → Bool
  | .clear _ | .drawTriangleStrip _ _ | .readPixels _ _ => true
  | _ => false

namespace Memory

open ShaderSketch.Frame

variable {g g' : Memory} {events : List Event}

/-- Events that are no strokes are not counted. -/
theorem counts_of_quiet (h : g'.events = g.events ++ events)
    (quiet : ∀ e ∈ events, e.paints = false) :
    g'.stripsDrawn = g.stripsDrawn ∧ g'.clears = g.clears ∧ g'.readBacks = g.readBacks := by
  rw [stripsDrawn, clears, readBacks, h, List.countP_append, List.filterMap_append,
    List.countP_append]
  refine ⟨Nat.add_eq_left.mpr (List.countP_eq_zero.mpr fun e he => ?_),
    List.append_right_eq_self.mpr (List.filterMap_eq_nil_iff.mpr fun e he => ?_),
    Nat.add_eq_left.mpr (List.countP_eq_zero.mpr fun e he => ?_)⟩
  all_goals
    have := quiet e he
    cases e <;> simp_all [Event.paints]

/-- A frame that is painted is cleared and drawn once, and read back when it is captured. -/
theorem counts_of_paint {view : View} {capture : Bool}
    (h : g'.events = g.events ++ (events ++ paintEvents view capture))
    (quiet : ∀ e ∈ events, e.paints = false) :
    g'.stripsDrawn = g.stripsDrawn + 1 ∧ g'.clears = g.clears ++ [background] ∧
      g'.readBacks = g.readBacks + if capture then 1 else 0 := by
  have hrecorded : (g.recording events).events = g.events ++ events := rfl
  obtain ⟨hstrips, hclears, hreads⟩ := counts_of_quiet hrecorded quiet
  have hevents : g'.events = (g.recording events).events ++ paintEvents view capture := by
    rw [h, ← List.append_assoc]
    rfl
  rw [← hstrips, ← hclears, ← hreads, stripsDrawn, clears, readBacks, hevents,
    List.countP_append, List.filterMap_append, List.countP_append]
  cases capture <;> exact ⟨rfl, rfl, rfl⟩

theorem quiet_traces (source : String) (result : Except Canvas.Failure Unit) :
    ∀ e ∈ (traces source result).events, e.paints = false :=
  forall_mem_traces (fun _ _ => rfl) (fun _ => rfl) source result

theorem quiet_filling (rectangle : Option Handle) (new : Handle) :
    ∀ e ∈ fillingEvents rectangle new, e.paints = false := by
  cases rectangle <;> simp [fillingEvents, Event.paints]

theorem quiet_inputs (view : View) (source : String) (program rectangle : Handle) :
    ∀ e ∈ inputEvents view source program rectangle, e.paints = false := by
  unfold inputEvents
  simp only [List.forall_mem_append]
  refine ⟨⟨by simp [Event.paints], ?_⟩, ?_⟩ <;> split <;> simp [Event.paints]

/-- Traces add the texts of each stage that are among them. -/
theorem sourcesOf_append {t : Traces} (h : g'.compiled = g.compiled ++ t.texts) (stage : Stage) :
    g'.sourcesOf stage = g.sourcesOf stage ++ t.textsOf stage := by
  rw [sourcesOf, h, List.filterMap_append]
  rfl

/-- The only vertex text is the fixed one, and there is a fragment text if the attempt got there. -/
theorem texts_traces (source : String) (result : Except Canvas.Failure Unit) :
    (∀ text ∈ (traces source result).textsOf .vertex, text = Shader.vertexSource) ∧
      (traces source result).textsOf .fragment =
        if compiledFragment result then [Shader.prepare source] else [] := by
  have hshader (stage : Stage) (text : String) (good : Bool) (asked : Stage) :
      (shaderTraces stage text good).textsOf asked = if stage = asked then [text] else [] := by
    unfold Traces.textsOf shaderTraces
    split <;> simp [*]
  have hprogram (good : Bool) (asked : Stage) : (programTraces good).textsOf asked = [] := rfl
  have hnone (asked : Stage) : ({} : Traces).textsOf asked = [] := rfl
  unfold traces
  split <;> simp [hshader, hprogram, hnone, compiledFragment, Canvas.Failure.early]

theorem sourcesOf_traced {source : String} {result : Except Canvas.Failure Unit}
    (h : g'.compiled = g.compiled ++ (traces source result).texts)
    (vertex : ∀ text ∈ g.sourcesOf .vertex, text = Shader.vertexSource) :
    (∀ text ∈ g'.sourcesOf .vertex, text = Shader.vertexSource) ∧
      g'.sourcesOf .fragment = g.sourcesOf .fragment ++
        if compiledFragment result then [Shader.prepare source] else [] := by
  obtain ⟨hvertex, hfragment⟩ := texts_traces source result
  rw [sourcesOf_append h, sourcesOf_append h, hfragment]
  exact ⟨List.forall_mem_append.mpr ⟨vertex, hvertex⟩, rfl⟩

end Memory

end Gl

namespace Canvas

open ShaderSketch.Frame Gl MemorySurface

variable {c : Canvas MemorySurface} {ts : List (Trial String)} {n : Nat}

/-- What an attempt adds to the counts: one of each if it drew. -/
theorem counts_afterwards (c : Canvas MemorySurface) (source : String) (capture : Bool) :
    let g := (c.afterwards source capture).surface.gl
    g.stripsDrawn = c.surface.gl.stripsDrawn + (if drew (c.forecast source) then 1 else 0) ∧
      g.clears = c.surface.gl.clears ++ (if drew (c.forecast source) then [background] else []) ∧
      g.readBacks =
        c.surface.gl.readBacks + if capture && drew (c.forecast source) then 1 else 0 := by
  intro g
  have hevents := c.events_afterwards source capture
  rw [drawing] at hevents
  by_cases hdrew : drew (c.forecast source)
  · rw [if_pos hdrew, ← List.append_assoc (fillingEvents _ _),
      ← List.append_assoc (Traces.events _)] at hevents
    have hquiet : ∀ e ∈ (traces source (c.forecast source)).events ++
        (fillingEvents c.rectangle (c.surface.gl.issued + 4) ++
          inputEvents (plain.view c.surface) source (c.surface.gl.issued + 3)
            (c.rectangle.getD (c.surface.gl.issued + 4))), e.paints = false :=
      List.forall_mem_append.mpr ⟨Memory.quiet_traces _ _,
        List.forall_mem_append.mpr ⟨Memory.quiet_filling _ _, Memory.quiet_inputs _ _ _ _⟩⟩
    obtain ⟨hstrips, hclears, hreads⟩ := Memory.counts_of_paint hevents hquiet
    rw [hstrips, hclears, hreads, if_pos hdrew, if_pos hdrew, hdrew, Bool.and_true]
    exact ⟨rfl, rfl, rfl⟩
  · rw [if_neg hdrew, List.append_nil] at hevents
    obtain ⟨hstrips, hclears, hreads⟩ := Memory.counts_of_quiet hevents (Memory.quiet_traces _ _)
    rw [hstrips, hclears, hreads, if_neg hdrew, if_neg hdrew, if_neg (by simp [hdrew]),
      List.append_nil]
    exact ⟨rfl, rfl, rfl⟩

/-- Buffers are made by drawing only, and one that was made is still there. -/
theorem buffers_afterwards (c : Canvas MemorySurface) (source : String) (capture : Bool)
    (h : c.surface.gl.buffersMade = c.surface.gl.buffers.size + n) :
    (c.afterwards source capture).surface.gl.buffersMade =
      (c.afterwards source capture).surface.gl.buffers.size + n := by
  rw [afterwards]
  split
  · cases hrectangle : c.rectangle with
    | some b => exact h
    | none =>
        -- the new buffer is counted on both sides
        show c.surface.gl.buffersMade + 1 = c.surface.gl.buffers.size + 1 + n
        rw [h, Nat.add_right_comm]
  · exact h

/-- What a trial tells of itself is what was forecast.  This is where what was said, which the
accounts speak of, meets the forecast, which the context was changed by. -/
structure Trial.Foreseen (t : Trial ℓ) (source : String) (capture : Bool)
    (result : Except Failure Unit) : Prop where
  source : t.source = source
  capture : t.capture = capture
  drew : t.drew = Frame.drew result
  compiledFragment : t.compiledFragment = Frame.compiledFragment result
  unshown : t.unshown = (Frame.drew result && !result.isOk)

/-- At rest an attempt goes as was forecast, and so does all that it says of itself. -/
theorem foreseen_trial (rest : c.surface.AtRest c.rectangle) (source : String) (capture : Bool) :
    (c.trial plain source capture).Foreseen source capture (c.forecast source) := by
  have hresult : (c.attempt plain source capture).1 = (c.forecast source).map fun _ =>
      blankPixels (plain.view c.surface) capture := by rw [attempt_eq_forecast rest]
  refine ⟨rfl, rfl, ?_, ?_, ?_⟩
  · rw [drew_trial, hresult]
    cases c.forecast source <;> rfl
  · rw [compiledFragment_trial, hresult]
    cases c.forecast source <;> rfl
  · rw [Trial.unshown, trial, hresult]
    cases c.forecast source with
    | ok _ => rfl
    | error e => cases e <;> rfl

/-- **What an attempt adds to the accounts.**  At rest, what an attempt adds to the context is known
from its forecast (`attempt_eq_forecast`), so that each of the seven equations is carried on by
itself. -/
theorem accounts_attempt (rest : c.surface.AtRest c.rectangle) (h : Accounts c ts n)
    (source : String) (capture : Bool) :
    Accounts (c.attempt plain source capture).2 (ts ++ [c.trial plain source capture]) n := by
  obtain ⟨hsource, hcapture, hdrew, hcompiled, hunshown⟩ := foreseen_trial rest source capture
  rw [attempt_eq_forecast rest]
  obtain ⟨hstrips, hclears, hreads⟩ := c.counts_afterwards source capture
  obtain ⟨hvertex, hfragment⟩ :=
    Memory.sourcesOf_traced (c.compiled_afterwards source capture) h.vertex
  refine ⟨?_, ?_, ?_, ?_, c.buffers_afterwards source capture h.buffers, hvertex, ?_⟩
  · rw [frames_afterwards, shown_afterwards, h.shown]
  · rw [hstrips, hclears, List.length_append, h.clears]
    split <;> rfl
  · rw [hstrips, frames_afterwards, List.countP_append, List.countP_singleton, hunshown, h.strips]
    cases hforecast : drew (c.forecast source) with
    | false => simp [isOk_of_not_drew hforecast]
    | true => cases (c.forecast source).isOk <;> simp <;> omega
  · rw [hreads, h.reads, List.countP_append, List.countP_singleton, hcapture, hdrew]
  · rw [hfragment, h.fragment, List.filter_append, List.map_append, ← hcompiled]
    cases htrial : (c.trial plain source capture).compiledFragment <;> simp [htrial, hsource]

/-- A release gives back the rectangle, if there is one. -/
theorem accounts_release (rest : c.surface.AtRest c.rectangle) (h : Accounts c ts n) :
    Accounts (c.release plain) ts (n + c.returned (.release : Step Incident)) := by
  have hsize : c.surface.gl.buffers.size = c.rectangle.toList.length := by
    rw [← rest.buffers, Table.handles, List.length_map]
    rfl
  rw [release_eq rest]
  refine ⟨h.shown, h.clears, h.strips, h.reads, ?_, h.vertex, h.fragment⟩
  show c.surface.gl.buffersMade = 0 + (n + c.returned (.release : Step Incident))
  rw [h.buffers, hsize, returned]
  cases c.rectangle <;> simp [Nat.add_comm]

/-- An incident is of no account. -/
theorem accounts_happen (h : Accounts c ts n) (incident : Incident) :
    Accounts { c with surface := c.surface.happen incident } ts n := by
  cases incident <;>
    exact ⟨h.shown, h.clears, h.strips, h.reads, h.buffers, h.vertex, h.fragment⟩

/-- What a step adds to the accounts. -/
theorem accounts_step (rest : c.surface.AtRest c.rectangle) (h : Accounts c ts n)
    (t : Step Incident) :
    Accounts (c.step troubled t) (ts ++ c.tried troubled t) (n + c.returned t) := by
  cases t with
  | draw source => exact accounts_attempt rest h source false
  | capture source => exact accounts_attempt rest h source true
  | save source path files =>
      have hempty : ts ++ [] = ts := List.append_nil ts
      rw [step, saveAs_canvas, picture_canvas, tried]
      by_cases hzero : (troubled.view c.surface).width = 0 ∨ (troubled.view c.surface).height = 0
      · rw [if_pos hzero, if_pos hzero, hempty]
        exact h
      · rw [if_neg hzero, if_neg hzero]
        exact accounts_attempt rest h source true
  | release => exact (List.append_nil ts).symm ▸ accounts_release rest h
  | change what => exact (List.append_nil ts).symm ▸ accounts_happen h what

theorem accounts_steps (rest : c.surface.AtRest c.rectangle) (h : Accounts c ts n)
    (life : List (Step Incident)) :
    Accounts (c.steps troubled life) (ts ++ trials troubled c life)
      (n + returns troubled c life) := by
  induction life generalizing c ts n with
  | nil => exact (List.append_nil ts).symm ▸ h
  | cons t life ih =>
      rw [trials, returns, ← List.append_assoc, ← Nat.add_assoc]
      exact ih (rest_life rest [t]) (accounts_step rest h t)

/-- **Every frame is accounted for.**  In every life of a canvas on a new surface in memory the
canvas counts the frames that the surface showed; every frame that was drawn was cleared first, and
was shown or failed to be; every frame that was captured was read back; every buffer that was made
is still there or was given back; and the texts that were compiled are the fixed vertex stage, and
the fragment stages of the attempts that got that far, in order.  The surface has to be new: what
was in its context before, or was shown, would stand in the sums as well. -/
theorem frames_accounted {m : MemorySurface} (hgl : m.gl = {}) (hshown : m.shown = 0)
    (life : List (Step Incident)) :
    Accounts (({ surface := m } : Canvas _).steps troubled life)
      (trials troubled { surface := m } life) (returns troubled { surface := m } life) := by
  have hstart : Accounts ({ surface := m } : Canvas _) [] 0 := by
    refine ⟨hshown.symm, ?_, ?_, ?_, ?_, ?_, ?_⟩ <;> simp only [hgl]
    all_goals first | rfl | exact nofun
  have h := accounts_steps (MemorySurface.rest_new hgl) hstart life
  rwa [List.nil_append, Nat.zero_add] at h

/-- A life with a stage that does not compile, a frame that is not shown, and a release. -/
def checkeredLife : List (Step Incident) :=
  [.draw "void", .draw "void main() {}", .change (.spoilNextFrame "lost"),
    .capture "void main() {}", .release, .change .barPrograms, .draw "void main() {}"]

theorem frames_accounted_checkered :
    let c : Canvas MemorySurface := { surface := { width := 2, height := 2 } }
    Accounts (c.steps troubled checkeredLife) (trials troubled c checkeredLife)
        (returns troubled c checkeredLife) ∧
      (trials troubled c checkeredLife).length = 4 ∧ returns troubled c checkeredLife = 1 ∧
      (c.steps troubled checkeredLife).frames = 1 ∧
      (c.steps troubled checkeredLife).surface.gl.stripsDrawn = 2 := by
  intro c
  refine ⟨frames_accounted rfl rfl checkeredLife, ?_⟩
  decide +kernel

end Canvas

end ShaderSketch
