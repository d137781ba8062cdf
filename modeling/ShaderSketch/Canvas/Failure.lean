import ShaderSketch.Gl.Call

/-!
# Failed frames

## Main definitions

* `Canvas.Resource` : the objects that a frame needs
* `Canvas.Failure` : why no frame was drawn or shown
* `Canvas.Failure.message` : the wording
* `Canvas.PictureFailure` : why no picture was written, and its wording
-/

namespace ShaderSketch.Canvas

/-- The objects that a frame needs. -/
inductive Resource
  | shader (stage : Gl.Stage)
  | program
  | rectangle
  deriving Repr, DecidableEq

/-- The name of an object in messages. -/
def Resource.name : Resource → String
  | .shader stage => stage.name ++ " shader"
  | .program => "shader program"
  | .rectangle => "geometry buffer"

/-- Why no frame was drawn or shown: there is no context, an object cannot be had, a stage does not
compile, the stages do not fit together, or the frame cannot be shown. -/
inductive Failure
  | noContext
  | allocation (what : Resource) (reason : String)
  | compilation (stage : Gl.Stage) (log : String)
  | linking (log : String)
  | showing (reason : String)
  deriving Repr, DecidableEq

namespace Failure

/-- The wording of a failure. -/
def message : Failure → String
  | .noContext => "rendering context is not available on this surface"
  | .allocation what reason => "failed to allocate " ++ what.name ++ ": " ++ reason
  | .compilation stage log => "failed to compile " ++ stage.name ++ " shader: " ++ log
  | .linking log => "failed to link shader program: " ++ log
  | .showing reason => "failed to present frame: " ++ reason

/-- The stage that did not compile. -/
def stage : Failure → Option Gl.Stage
  | .compilation stage _ => some stage
  | _ => none

/-- What the compiler or the linker said about the sources. -/
def log : Failure → Option String
  | .compilation _ log | .linking log => some log
  | _ => none

end Failure

/-- Why no picture was written: no frame was drawn, there are no pixels, or the file cannot be
written. -/
inductive PictureFailure
  | frame (e : Failure)
  | empty (width height : UInt32)
  | file (reason : String)
  deriving Repr, DecidableEq

/-- The wording of a failure. -/
def PictureFailure.message : PictureFailure → String
  | .frame e => e.message
  | .empty width height =>
    "surface reported an empty " ++ toString width ++ "x" ++ toString height ++ " frame"
  | .file reason => "failed to encode frame: " ++ reason

end ShaderSketch.Canvas
