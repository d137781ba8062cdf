import ShaderSketch.Proofs.Forecast
import ShaderSketch.Proofs.Hurdles
import ShaderSketch.Proofs.Register

/-!
# Objects that are not to be had

A context in memory can be told that it has no room for programs, for buffers, or for the shaders of
a stage.  Programs and buffers are then refused for good.  Shaders are refused of one stage only,
the one that was named last: naming the other stage gives the first one room again.

## Main definitions

* `MemorySurface.Meddling`, `MemorySurface.meddled` — what can happen to a surface in memory whose
  context others use as well
* `Canvas.barredStages` — the stages that were named in a life, in order
* `Canvas.InForce` — the invariant: what a context bars, by what it was told
* `Canvas.Obeys` — an object is refused in an exchange if there is no room for it, and only then
* `Canvas.Withheld` — what comes of creations and of attempts on a canvas

## Main results

* `Canvas.inForce_steps` : bars stay in force in every life, whatever is called
* `Canvas.attempt_of_barredStage` : what an attempt comes to when a stage is barred
* `Canvas.creations_withheld` : all of it, at every point of every life
-/

namespace ShaderSketch

open Surface

/-! ## Room for objects -/

namespace Gl.Memory

variable {g : Memory}

theorem isOk_createShader (g : Memory) (stage : Stage) :
    (g.createShader stage).1.isOk ↔ g.barredStage ≠ some stage := by
  unfold createShader
  split
  · next hbarred => exact iff_of_false Bool.false_ne_true (not_not_intro hbarred)
  · next hroom => exact iff_of_true rfl hroom

theorem isOk_createProgram (g : Memory) : g.createProgram.1.isOk ↔ ¬ g.barsPrograms := by
  unfold createProgram
  split
  · next hbarred => exact iff_of_false Bool.false_ne_true (not_not_intro hbarred)
  · next hroom => exact iff_of_true rfl hroom

theorem isOk_createBuffer (g : Memory) : g.createBuffer.1.isOk ↔ ¬ g.barsBuffers := by
  unfold createBuffer
  split
  · next hbarred => exact iff_of_false Bool.false_ne_true (not_not_intro hbarred)
  · next hroom => exact iff_of_true rfl hroom

/-- A creation that fails leaves the context as it was. -/
theorem answer_of_refused {call : Call String} (makes : call.makes = 1)
    (failed : (g.exchange call).failed) : (answer call g).2 = g := by
  cases call with
  | createShader stage =>
      by_cases hbarred : g.barredStage = some stage
      · exact congrArg Prod.snd (if_pos hbarred)
      · rw [exchange, answer, createShader_ok hbarred] at failed
        cases failed
  | createProgram =>
      cases hbarred : g.barsPrograms with
      | true => exact congrArg Prod.snd (if_pos hbarred)
      | false =>
          rw [exchange, answer, createProgram_ok hbarred] at failed
          cases failed
  | createBuffer =>
      cases hbarred : g.barsBuffers with
      | true => exact congrArg Prod.snd (if_pos hbarred)
      | false =>
          rw [exchange, answer, createBuffer_ok hbarred] at failed
          cases failed
  | _ => cases makes

end Gl.Memory

/-! ## Meddling -/

namespace MemorySurface

/-- What can happen to a surface in memory whose context others use as well: an incident, or that
they make a call. -/
inductive Meddling
  | incident (what : Incident)
  | call (c : Gl.Call String)

/-- The surface in memory, with all that can happen to it while others use its context. -/
def meddled : World MemorySurface Meddling String where
  toSurface := plain
  happen
    | .incident what, m => m.happen what
    | .call c, m => (plain.answer (.gl c) m).2
  hasContext_answer := hasContext_answer
  hasContext_happen what m h := by
    cases what with
    | incident what => exact hasContext_happen what m h
    | call c => exact hasContext_answer (.gl c) m h

end MemorySurface

namespace Canvas

open ShaderSketch.Frame Gl MemorySurface

/-! ## Bars -/

/-- The stage of which a step says that there is no room for its shaders. -/
def Step.barredStage? : Step Meddling → Option Stage
  | .change (.incident (.barShaders stage)) => some stage
  | _ => none

/-- The stages that were named in a life, in order. -/
def barredStages (life : List (Step Meddling)) : List Stage := life.filterMap Step.barredStage?

/-- What a context bars after a life: of the stages the last one that was named, programs and
buffers if they ever were.  A stage that was named is forgotten when another one is, while programs
and buffers have one switch each that is never turned back. -/
structure InForce (life : List (Step Meddling)) (g : Memory) : Prop where
  stage : g.barredStage = (barredStages life).getLast?
  programs : g.barsPrograms ↔ .change (.incident .barPrograms) ∈ life
  buffers : g.barsBuffers ↔ .change (.incident .barBuffers) ∈ life

variable {life : List (Step Meddling)} {g g' : Memory}

/-- What leaves the bars alone leaves them in force. -/
theorem InForce.of_bars (h : InForce life g) (bars : g'.barredStage = g.barredStage ∧
    g'.barsPrograms = g.barsPrograms ∧ g'.barsBuffers = g.barsBuffers) : InForce life g' where
  stage := bars.1.trans h.stage
  programs := bars.2.1 ▸ h.programs
  buffers := bars.2.2 ▸ h.buffers

/-- No request changes what is in force. -/
theorem InForce.answer {m : MemorySurface} (h : InForce life m.gl) (request : Request String) :
    InForce life (plain.answer request m).2.gl := by
  cases request with
  | gl call => exact h.of_bars (Memory.bars_answer call m.gl)
  | present =>
      have hgl : m.present.2.gl = m.gl := by rw [present_snd]
      show InForce life m.present.2.gl
      rwa [hgl]

/-- A step that names nothing adds nothing to what is in force. -/
theorem InForce.concat (h : InForce life g) {t : Step Meddling} (unnamed : t.barredStage? = none)
    (programs : t ≠ .change (.incident .barPrograms))
    (buffers : t ≠ .change (.incident .barBuffers)) : InForce (life ++ [t]) g where
  stage := by rw [h.stage, barredStages, barredStages, List.filterMap_append]; simp [unnamed]
  programs := by rw [h.programs]; simp [programs.symm]
  buffers := by rw [h.buffers]; simp [buffers.symm]

/-- A step adds to what is in force what it names. -/
theorem InForce.step {c : Canvas MemorySurface} (h : InForce life c.surface.gl)
    (t : Step Meddling) : InForce (life ++ [t]) (c.step meddled t).surface.gl := by
  -- attempts and releases make requests only
  have hrun {α : Type} (r : Routine String α) : InForce life (r.run plain c.surface).2.gl :=
    r.run_induction (P := fun m : MemorySurface => InForce life m.gl) (fun q m hm => hm.answer q) h
  cases t with
  | draw source => exact (hrun _).concat rfl (by simp) (by simp)
  | capture source => exact (hrun _).concat rfl (by simp) (by simp)
  | release => exact (hrun _).concat rfl (by simp) (by simp)
  | save source path files =>
      refine InForce.concat ?_ rfl (by simp) (by simp)
      rw [Canvas.step, saveAs_canvas, picture_canvas]
      split
      · exact h
      · exact hrun _
  | change what =>
      rcases what with what | call
      · rcases what with ⟨width, height⟩ | ⟨seconds⟩ | ⟨reason⟩ | ⟨stage⟩ | _ | _
        · exact h.concat rfl (by simp) (by simp)
        · exact h.concat rfl (by simp) (by simp)
        · exact h.concat rfl (by simp) (by simp)
        · have hlast : (barredStages (life ++ [.change (.incident (.barShaders stage))])).getLast? =
              some stage := by simp [barredStages, Step.barredStage?]
          exact ⟨hlast.symm, h.programs.trans (by simp), h.buffers.trans (by simp)⟩
        · exact ⟨h.stage.trans (by simp [barredStages, Step.barredStage?]),
            iff_of_true rfl (by simp), h.buffers.trans (by simp)⟩
        · exact ⟨h.stage.trans (by simp [barredStages, Step.barredStage?]),
            h.programs.trans (by simp), iff_of_true rfl (by simp)⟩
      · exact (h.of_bars (Memory.bars_answer call c.surface.gl)).concat rfl (by simp) (by simp)

/-- **Bars stay in force**, whatever is drawn, called or named in between.  Nothing that is drawn or
called turns a switch, so that only the steps which name something have to be looked at. -/
theorem inForce_steps {m : MemorySurface} (h : InForce [] m.gl) (life : List (Step Meddling)) :
    InForce life (({ surface := m } : Canvas MemorySurface).steps meddled life).surface.gl := by
  induction life using List.reverseRecOn with
  | nil => exact h
  | append_singleton life t ih =>
      rw [steps, List.foldl_append]
      exact ih.step t

/-! ## Creations -/

/-- An object is refused in an exchange if there is no room for it after a life, and only then. -/
def Obeys (life : List (Step Meddling)) : Exchange String → Prop
  | ⟨.gl (.createShader stage), answer⟩ => answer.isOk ↔ (barredStages life).getLast? ≠ some stage
  | ⟨.gl .createProgram, answer⟩ => answer.isOk ↔ .change (.incident .barPrograms) ∉ life
  | ⟨.gl .createBuffer, answer⟩ => answer.isOk ↔ .change (.incident .barBuffers) ∉ life
  | _ => True

/-- What is in force is obeyed. -/
theorem InForce.obeys (h : InForce life g) (call : Call String) : Obeys life (g.exchange call) := by
  cases call with
  | createShader stage =>
      show (g.createShader stage).1.isOk ↔ _
      rw [← h.stage]
      exact g.isOk_createShader stage
  | createProgram =>
      show g.createProgram.1.isOk ↔ _
      rw [← h.programs]
      exact g.isOk_createProgram
  | createBuffer =>
      show g.createBuffer.1.isOk ↔ _
      rw [← h.buffers]
      exact g.isOk_createBuffer
  | _ => trivial

/-- What is in force is obeyed throughout an attempt. -/
theorem InForce.obeys_said {c : Canvas MemorySurface} (h : InForce life c.surface.gl)
    (source : String) (capture : Bool) : ∀ e ∈ c.said plain source capture, Obeys life e := by
  intro e he
  obtain ⟨m, hm, heq⟩ := Routine.answered_of_mem_said
    (P := fun m : MemorySurface => InForce life m.gl) (fun q m hm => hm.answer q) _ h e he
  rw [heq]
  cases e.request with
  | gl call => exact hm.obeys call
  | present => trivial

/-! ## Attempts -/

end Canvas

/-- There is a program only if there was room for both shaders and for the program. -/
theorem Frame.Assembling.granted {ℓ : Type} {source : String} {said : List (Exchange ℓ)}
    {program : Gl.Handle} (h : Assembling source said (.ok program)) :
    (∀ stage, ∃ shader, told (.createShader stage) (.ok shader) ∈ said) ∧
      ∃ program, told .createProgram (.ok program) ∈ said := by
  cases h with
  | @joined _ _ _ vertex fragment _ vertexStage fragmentStage link =>
      cases vertexStage
      cases fragmentStage
      cases link
      refine ⟨fun stage => ?_, program, by simp [joining]⟩
      cases stage with
      | vertex => exact ⟨vertex, by simp⟩
      | fragment => exact ⟨fragment, by simp⟩

namespace MemorySurface

open ShaderSketch.Frame Routine Gl

/-- **No program is made when a stage is barred**, and what is said is that there is no room for a
shader of that stage: the vertex stage compiles, so nothing else can stop the fragment stage.  Which
of the two stages it is makes no difference to what is said, although the one is asked for before
anything is made and the other after. -/
theorem run_assembled_refused {m : MemorySurface} {stage : Stage}
    (h : m.gl.barredStage = some stage) (source : String) :
    ((assembled source).run plain m).1 = .error (noShader stage) := by
  cases stage with
  | vertex =>
      rw [assembled, run_bind, run_compiled_refused h]
      rfl
  | fragment =>
      have hvertex : m.gl.barredStage ≠ some .vertex := by simp [h]
      have hkept : ((compiled .vertex Shader.vertexSource).run plain m).2.gl.barredStage =
          some .fragment := by
        refine Routine.run_induction
          (P := fun m : MemorySurface => m.gl.barredStage = some .fragment) ?_ _ h
        intro request m hm
        cases request with
        | gl call => exact (Memory.bars_answer call m.gl).1.trans hm
        | present =>
            show m.present.2.gl.barredStage = _
            rwa [present_snd]
      have hcompiled := run_compiled hvertex Shader.vertexSource
      rw [verdict_vertexSource] at hcompiled
      rw [hcompiled] at hkept
      rw [assembled, run_bind, hcompiled]
      dsimp only at hkept ⊢
      rw [run_bind, run_compiled_refused hkept]
      rfl

end MemorySurface

namespace Canvas

open ShaderSketch.Frame Gl MemorySurface

variable {c : Canvas MemorySurface} {life : List (Step Meddling)}

/-- **An attempt fails for the stage that is barred.**  Without a context it would fail for that;
this is asked for and nothing else, so that a bar comes before all that is wrong with the source. -/
theorem attempt_of_barredStage {stage : Stage} (context : c.surface.hasContext)
    (h : c.surface.gl.barredStage = some stage) (source : String) (capture : Bool) :
    (c.attempt plain source capture).1 = .error (noShader stage) := by
  have hview : (plain.view c.surface).hasContext := context
  have hassembled := run_assembled_refused h source
  rw [attempt_eq, settle, Frame.attempt, if_pos hview, attemptOn, Routine.run_bind]
  generalize (assembled source).run plain c.surface = outcome at hassembled ⊢
  obtain ⟨result, m⟩ := outcome
  obtain rfl : result = .error (noShader stage) := hassembled
  rfl

/-- Nothing is drawn once a stage was named, or programs. -/
theorem InForce.undrawn (h : InForce life c.surface.gl)
    (named : barredStages life ≠ [] ∨ .change (.incident .barPrograms) ∈ life) (source : String)
    (capture : Bool) (pixels : Pixels) : (c.attempt plain source capture).1 ≠ .ok pixels := by
  intro hdrawn
  have hobeys := h.obeys_said source capture
  have hattempting := c.attempting_said plain source capture
  rw [hdrawn] at hattempting
  -- an attempt that draws was granted what was named
  obtain ⟨hshaders, program, hprogram⟩ : (∀ stage, ∃ shader,
      told (.createShader stage) (.ok shader) ∈ c.said plain source capture) ∧
        ∃ program, told .createProgram (.ok program) ∈ c.said plain source capture := by
    generalize c.said plain source capture = said at hattempting
    generalize houtcome : (Except.ok pixels, _) = outcome at hattempting
    cases hattempting with
    | noContext => cases houtcome
    | noProgram => cases houtcome
    | noRectangle => cases houtcome
    | finished _ assembled =>
        obtain ⟨hshaders, program, hprogram⟩ := assembled.granted
        refine ⟨fun stage => ?_, program, List.mem_append_left _ hprogram⟩
        obtain ⟨shader, hshader⟩ := hshaders stage
        exact ⟨shader, List.mem_append_left _ hshader⟩
  rcases named with named | named
  · obtain ⟨shader, hshader⟩ := hshaders ((barredStages life).getLast named)
    exact (hobeys _ hshader).mp rfl (List.getLast?_eq_some_getLast named)
  · exact (hobeys _ hprogram).mp rfl named

/-- What comes of creations and of attempts on a canvas after a life.  A call is refused an object
that there is no room for, and only that, and leaves the context as it was; the same goes for every
call of an attempt.  There was room for the shaders of a stage that was never named.  Once a stage
was named, or programs, no attempt succeeds, and with a stage it fails for the one that was named
last. -/
structure Withheld (life : List (Step Meddling)) (c : Canvas MemorySurface) : Prop where
  call : ∀ call, Obeys life (c.surface.gl.exchange call)
  within : ∀ source capture, ∀ e ∈ c.said plain source capture, Obeys life e
  unnamed : ∀ stage, stage ∉ barredStages life →
    ∃ shader, (Memory.answer (.createShader stage) c.surface.gl).1 = .ok shader
  unchanged : ∀ call : Call String, call.makes = 1 → (c.surface.gl.exchange call).failed →
    (Memory.answer call c.surface.gl).2 = c.surface.gl
  undrawn : barredStages life ≠ [] ∨ .change (.incident .barPrograms) ∈ life →
    ∀ source capture pixels, (c.attempt plain source capture).1 ≠ .ok pixels
  last : ∀ stage, (barredStages life).getLast? = some stage → ∀ source capture,
    (c.attempt plain source capture).1 = .error (noShader stage)

/-- **Objects are withheld as it was last said**, at every point of every life of a canvas on a new
surface, whatever is called on its context in between.  The surface is new, so that it bars nothing
by itself, and all that is barred was named in the life. -/
theorem creations_withheld (width height : UInt32) (life : List (Step Meddling)) :
    Withheld life
      (({ surface := { width, height } } : Canvas MemorySurface).steps meddled life) := by
  generalize hc : ({ surface := { width, height } } : Canvas MemorySurface).steps meddled life = c
  have hforce : InForce life c.surface.gl := hc ▸ inForce_steps ⟨rfl, by simp, by simp⟩ life
  have context : c.surface.hasContext := hc ▸ hasContext_steps meddled life rfl
  refine ⟨hforce.obeys, hforce.obeys_said, ?_, ?_, hforce.undrawn, ?_⟩
  · intro stage unnamed
    have hroom : c.surface.gl.barredStage ≠ some stage := by
      rw [hforce.stage]
      exact fun hlast => unnamed (List.mem_of_getLast? hlast)
    exact ⟨_, congrArg Prod.fst (Memory.createShader_ok hroom)⟩
  · exact fun call makes failed => Memory.answer_of_refused makes failed
  · intro stage hlast
    exact attempt_of_barredStage context (hforce.stage.trans hlast)

/-- A life in which both stages are named, the vertex stage first. -/
def relented : List (Step Meddling) :=
  [.change (.incident (.barShaders .vertex)), .change (.incident (.barShaders .fragment))]

/-- The vertex stage was named, and yet there is room for its shaders again: an attempt gets as far
as the fragment stage. -/
theorem vertex_shader_granted :
    let c := ({ surface := { width := 2, height := 2 } } : Canvas MemorySurface).steps meddled
      relented
    .vertex ∈ barredStages relented ∧ .fragment ∈ barredStages relented ∧
      (Memory.answer (.createShader .vertex) c.surface.gl).1 = .ok 1 ∧
      (c.attempt plain "void main() {}" false).1 = .error (noShader .fragment) := by
  decide +kernel

end Canvas

end ShaderSketch
