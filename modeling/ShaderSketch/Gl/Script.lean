import ShaderSketch.Gl.Memory

/-!
# Scripted answers

The context in memory with some of its answers replaced. Calls whose answer is replaced still leave
their mark, except creations that the script refuses.

## Main definitions

* `Gl.Script` : the answers to replace
* `Gl.Script.answer` : the context as a driver
-/

namespace ShaderSketch.Gl

/-- The answers to replace: reasons to refuse a shader, statuses, logs, the place of every
attribute, and the bytes of the frame. -/
structure Script where
  createFailure : Stage → Option String := fun _ => none
  compileStatus : Stage → Option Bool := fun _ => none
  compileLog : Stage → Option String := fun _ => none
  linkStatus : Option Bool := none
  linkLog : Option String := none
  attribLocation : Option (Option Nat) := none
  pixels : Option (List UInt8) := none

namespace Script

/-- What the script has for the stage of a shader. -/
def forShader {α : Type} (answers : Stage → Option α) (m : Memory) (h : Handle) : Option α :=
  (m.shaders.get? h).bind fun shader => answers shader.stage

/-- The context as a driver. -/
def answer (s : Script) : Driver Memory String
  | .createShader stage, m =>
    match s.createFailure stage with
    | some reason => (.error reason, m)
    | none => m.createShader stage
  | .compileStatus h, m =>
    ((forShader s.compileStatus m h).getD (Memory.answer (.compileStatus h) m).1, m)
  | .shaderLog h, m => ((forShader s.compileLog m h).getD (Memory.answer (.shaderLog h) m).1, m)
  | .linkStatus h, m => (s.linkStatus.getD (Memory.answer (.linkStatus h) m).1, m)
  | .programLog h, m => (s.linkLog.getD (Memory.answer (.programLog h) m).1, m)
  | .attribLocation h name, m => (s.attribLocation.getD (m.attribLocation h name), m)
  | .readRgba width height, m =>
    let (bytes, m) := Memory.answer (.readRgba width height) m
    (s.pixels.getD bytes, m)
  | call, m => Memory.answer call m

end Script

end ShaderSketch.Gl
