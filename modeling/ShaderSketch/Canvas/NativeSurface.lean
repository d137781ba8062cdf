import ShaderSketch.Canvas.Basic
import ShaderSketch.Gl.Native

/-!
# Surfaces over a native library

## Main definitions

* `NativeSurface` : a surface over a native context
* `NativeSurface.recorded` : its answers, with every command recorded
* `NativeSurface.unbind` : leaves no program current and no buffer bound
-/

namespace ShaderSketch

/-- A surface over a native context. -/
structure NativeSurface where
  width : UInt32
  height : UInt32
  gl : Gl.Native := {}
  seconds : Binary := Binary.ofNat .single 0

namespace NativeSurface

/-- The surface with its commands recorded; showing a frame always succeeds. -/
def recorded : Surface NativeSurface Int where
  view m := ⟨m.width, m.height, true, m.seconds⟩
  answer
    | .gl call, m =>
      let (answer, gl) := Gl.Native.answer call m.gl
      (answer, { m with gl })
    | .present, m => (.ok (), { m with gl := m.gl.record .present })

/-- The surface with another size. -/
def resize (m : NativeSurface) (width height : UInt32) : NativeSurface := { m with width, height }

/-- Leaves no program current and no buffer bound. -/
def unbind (m : NativeSurface) : NativeSurface :=
  let gl := (Gl.Native.answer (.useProgram none) m.gl).2
  { m with gl := (Gl.Native.answer (.bindArrayBuffer none) gl).2 }

end NativeSurface

end ShaderSketch
