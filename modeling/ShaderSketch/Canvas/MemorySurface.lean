import ShaderSketch.Canvas.Basic
import ShaderSketch.Gl.Script

/-!
# Surfaces in memory

## Main definitions

* `MemorySurface` : a surface over the context in memory
* `MemorySurface.scripted`, `MemorySurface.plain` : its answers, with and without a script
* `MemorySurface.spoilNextFrame` : makes the next attempt to show a frame fail
-/

namespace ShaderSketch

/-- A surface over the context in memory, which counts the frames that it shows. -/
structure MemorySurface where
  width : UInt32
  height : UInt32
  hasContext : Bool := true
  gl : Gl.Memory := {}
  shown : Nat := 0
  nextFailure : Option String := none
  seconds : Binary := Binary.ofNat .single 0

namespace MemorySurface

/-- The surface with another size. -/
def resize (m : MemorySurface) (width height : UInt32) : MemorySurface := { m with width, height }

/-- Makes the next attempt to show a frame fail. -/
def spoilNextFrame (m : MemorySurface) (reason : String) : MemorySurface :=
  { m with nextFailure := some reason }

/-- Shows what was drawn, unless a failure is due, which is then spent. -/
def present (m : MemorySurface) : Except Canvas.Failure Unit × MemorySurface :=
  match m.nextFailure with
  | some reason => (.error (.showing reason), { m with nextFailure := none })
  | none => (.ok (), { m with shown := m.shown + 1 })

/-- The surface over a scripted context. -/
def scripted (script : Gl.Script) : Surface MemorySurface String where
  view m := ⟨m.width, m.height, m.hasContext, m.seconds⟩
  answer
    | .gl call, m =>
      let (answer, gl) := script.answer call m.gl
      (answer, { m with gl })
    | .present, m => m.present

/-- The surface over the context as it is. -/
def plain : Surface MemorySurface String where
  view m := ⟨m.width, m.height, m.hasContext, m.seconds⟩
  answer
    | .gl call, m =>
      let (answer, gl) := Gl.Memory.answer call m.gl
      (answer, { m with gl })
    | .present, m => m.present

end MemorySurface

end ShaderSketch
