import ShaderSketch.Proofs.Atomicity
import ShaderSketch.Proofs.Counting

/-!
# What a native library is told

Behind a native surface is a library with entry points of its own.  Every exchange with the surface
comes to a few commands to the library, always the same ones, and every answer is read off the
script.

## Main definitions

* `Surface.Exchange.commands` — the commands that an exchange comes to
* `Gl.Native.Script.Answers` — what an answer tells of the script
* `NativeSurface.Heard` — what a conversation does to a native surface
* `NativeSurface.shared` — the native surface, where others leave nothing bound at times

## Main results

* `NativeSurface.heard_said` : a routine says what it can say, and the library hears just that
* `Canvas.attempt_heard`, `Canvas.release_heard` : what that comes to for a canvas
* `Surface.Exchange.draws_of_mem` : the library draws only when it is asked to
-/

namespace ShaderSketch

open Surface Gl

/-! ## Commands -/

namespace Surface.Exchange

/-- The commands that an exchange with a native surface comes to. -/
def commands : Exchange Int → List Command
  | ⟨.gl (.createShader stage), .ok h⟩ => [.createShader stage h]
  | ⟨.gl (.createShader _), .error _⟩ => []
  | ⟨.gl (.shaderSource h text), _⟩ => [.shaderSource h text]
  | ⟨.gl (.compileShader h), _⟩ => [.compileShader h]
  | ⟨.gl (.compileStatus h), _⟩ => [.getShader h .compileStatus]
  | ⟨.gl (.shaderLog h), _⟩ => [.getShader h .logLength]
  | ⟨.gl (.deleteShader h), _⟩ => [.deleteShader h]
  | ⟨.gl .createProgram, .ok h⟩ => [.createProgram h]
  | ⟨.gl .createProgram, .error _⟩ => []
  | ⟨.gl (.attachShader program shader), _⟩ => [.attachShader program shader]
  | ⟨.gl (.detachShader program shader), _⟩ => [.detachShader program shader]
  | ⟨.gl (.linkProgram h), _⟩ => [.linkProgram h]
  | ⟨.gl (.linkStatus h), _⟩ => [.getProgram h .linkStatus]
  | ⟨.gl (.programLog h), _⟩ => [.getProgram h .logLength]
  | ⟨.gl (.useProgram program), _⟩ => [.useProgram (program.getD 0)]
  | ⟨.gl (.deleteProgram h), _⟩ => [.deleteProgram h]
  | ⟨.gl .createBuffer, .ok h⟩ => [.genBuffers h]
  | ⟨.gl .createBuffer, .error _⟩ => []
  | ⟨.gl (.uploadArrayBuffer h data), _⟩ => [.bindBuffer h, .bufferData data]
  | ⟨.gl (.bindArrayBuffer buffer), _⟩ => [.bindBuffer (buffer.getD 0)]
  | ⟨.gl (.deleteBuffer h), _⟩ => [.deleteBuffers h]
  | ⟨.gl (.attribLocation program name), _⟩ => [.attribLocation program name]
  | ⟨.gl (.floatAttribPointer index components), _⟩ =>
    [.enableVertexAttribArray index, .vertexAttribPointer index components]
  | ⟨.gl (.uniformLocation program name), _⟩ => [.uniformLocation program name]
  | ⟨.gl (.uniformVec2 location x y), _⟩ => [.uniform2f location x y]
  | ⟨.gl (.uniformFloat location value), _⟩ => [.uniform1f location value]
  | ⟨.gl (.viewport width height), _⟩ => [.viewport width height]
  | ⟨.gl (.clearColor color), _⟩ => [.clearColor color, .clear]
  | ⟨.gl (.drawTriangleStrip first count), _⟩ => [.drawArrays first count]
  | ⟨.gl (.readRgba width height), _⟩ => [.pixelStore, .readPixels width height]
  | ⟨.present, _⟩ => [.present]

/-- The library draws only when it is asked to. -/
theorem draws_of_mem {e : Exchange Int} {first count : Int}
    (h : .drawArrays first count ∈ e.commands) : e.draws := by
  unfold commands at h
  split at h
  all_goals first | rfl | simp at h

/-- Building a program draws nothing. -/
theorem draws_of_builds {ℓ : Type} {e : Exchange ℓ} (h : e.builds) : e.draws = false := by
  unfold builds at h
  split at h
  all_goals first | rfl | cases h

end Surface.Exchange

/-! ## Answers -/

/-- What an answer of a native surface tells of the script of its library: objects are always to be
had, and everything else is what the script says. -/
def Gl.Native.Script.Answers (s : Native.Script) : Exchange Int → Prop
  | ⟨.gl (.createShader _), answer⟩ | ⟨.gl .createProgram, answer⟩ | ⟨.gl .createBuffer, answer⟩ =>
    ∃ h, answer = .ok h ∧ h ≠ 0
  | ⟨.gl (.linkStatus _), verdict⟩ => verdict = decide (s.linkStatus = 1)
  | ⟨.gl (.programLog _), log⟩ => log = s.linkLog
  | ⟨.gl (.attribLocation _ name), place⟩ =>
    place = (Native.location? (s.attribs name)).map Int.toNat
  | ⟨.gl (.uniformLocation _ name), place⟩ => place = Native.location? (s.uniforms name)
  | ⟨.gl (.readRgba width height), pixels⟩ => pixels = Native.frame width height
  | ⟨.present, shown⟩ => shown = .ok ()
  | _ => True

namespace NativeSurface

/-- What a conversation does to a native surface: its library is told the commands, and answers by
its script.  That the script stays the same is what makes it an answer to the whole conversation: it
changes only between conversations, when something happens to the surface. -/
structure Heard (m : NativeSurface) (said : List (Exchange Int)) (m' : NativeSurface) : Prop where
  commands : m'.gl.commands = m.gl.commands ++ said.flatMap Exchange.commands
  answers : ∀ e ∈ said, m.gl.script.Answers e
  script : m'.gl.script = m.gl.script

theorem Heard.refl (m : NativeSurface) : Heard m [] m :=
  ⟨(List.append_nil _).symm, fun _ he => absurd he List.not_mem_nil, rfl⟩

theorem Heard.trans {m m' m'' : NativeSurface} {said said' : List (Exchange Int)}
    (h : Heard m said m') (h' : Heard m' said' m'') : Heard m (said ++ said') m'' where
  commands := by rw [h'.commands, h.commands, List.flatMap_append, List.append_assoc]
  answers := List.forall_mem_append.mpr ⟨h.answers, h.script ▸ h'.answers⟩
  script := h'.script.trans h.script

/-- One answer of the library adds the commands of one exchange. -/
theorem commands_answer (call : Call Int) (n : Native) :
    (Native.answer call n).2.commands =
      n.commands ++ Exchange.commands ⟨.gl call, (Native.answer call n).1⟩ := by
  cases call with
  | uploadArrayBuffer | floatAttribPointer | clearColor | readRgba =>
      -- these come to two commands
      exact List.append_assoc ..
  | _ => rfl

/-- The library answers by its script. -/
theorem answers_answer (call : Call Int) (n : Native) :
    n.script.Answers ⟨.gl call, (Native.answer call n).1⟩ := by
  cases call with
  | createShader | createProgram | createBuffer => exact ⟨_, rfl, Nat.succ_ne_zero _⟩
  | linkStatus | programLog | attribLocation | uniformLocation | readRgba => rfl
  | _ => trivial

/-- One answer tells the library the commands of one exchange. -/
theorem heard_answer (request : Request Int) (m : NativeSurface) :
    Heard m [⟨request, (recorded.answer request m).1⟩] (recorded.answer request m).2 where
  commands := by
    rw [List.flatMap_singleton]
    cases request with
    | gl call => exact commands_answer call m.gl
    | present => rfl
  answers := by
    rw [List.forall_mem_singleton]
    cases request with
    | gl call => exact answers_answer call m.gl
    | present => rfl
  script := by
    cases request with
    | gl call => cases call <;> rfl
    | present => rfl

/-- **The library hears what the routine says**, and nothing else.  No condition is put on the
routine, so that this holds of releases as it does of attempts. -/
theorem heard_said {α : Type} (r : Routine Int α) (m : NativeSurface) :
    Heard m (r.said recorded m) (r.run recorded m).2 :=
  Routine.said_induction Heard.refl (fun request m _ _ => (heard_answer request m).trans) r m

/-! ## Sharing the library -/

/-- What can happen to a native surface whose library others use as well: a change, or that they
leave no program current and no buffer bound. -/
inductive Incident
  | change (what : Change)
  | unbind

/-- The native surface, with all that can happen to it while others use its library. -/
def shared : World NativeSurface Incident Int where
  toSurface := recorded
  happen
    | .change what, m => m.happen what
    | .unbind, m => m.unbind
  hasContext_answer := world.hasContext_answer
  hasContext_happen _ _ _ := rfl

end NativeSurface

/-! ## Canvases -/

namespace Canvas

open ShaderSketch.Frame

/-- What an attempt on a native surface tells the library. -/
theorem attempt_heard (source : String) (capture : Bool) (c : Canvas NativeSurface) :
    ∃ said result,
      Attempting (NativeSurface.recorded.view c.surface) c.rectangle source capture said
        (result, (c.attempt NativeSurface.recorded source capture).2.rectangle) ∧
      c.surface.Heard said (c.attempt NativeSurface.recorded source capture).2.surface :=
  ⟨_, _, attempting_said NativeSurface.recorded source capture c, NativeSurface.heard_said _ _⟩

/-- What a release on a native surface tells the library. -/
theorem release_heard (c : Canvas NativeSurface) :
    c.surface.Heard (returning c.rectangle) (c.release NativeSurface.recorded).surface := by
  obtain ⟨surface, _ | buffer, frames⟩ := c
  · exact .refl surface
  · exact NativeSurface.heard_answer (.gl (.deleteBuffer buffer)) surface

end Canvas

end ShaderSketch
