/-!
# Failed requests

## Main definitions

* `Service.Failure` : why no shader came back
* `Service.Failure.message` : the wording
* `Service.Failure.isGivenUp` : whether the request was given up on purpose
-/

namespace ShaderSketch.Service

/-- Why no shader came back: there was nothing to ask for, the request did not get through, the
service refused it, its response cannot be read or holds no source, or the request was given up. -/
inductive Failure
  | blankPrompt
  | undelivered (reason : String)
  | refused (status : Nat)
  | unreadable (detail : String)
  | noSource
  | givenUp
  deriving Repr, DecidableEq

namespace Failure

/-- The wording of a failure. -/
def message : Failure → String
  | .blankPrompt => "prompt must not be empty"
  | .undelivered reason => "shader request failed: " ++ reason
  | .refused status => "shader service responded with HTTP " ++ toString status
  | .unreadable detail => "malformed shader service response: " ++ detail
  | .noSource => "shader service response contained no shader code"
  | .givenUp => "shader request was cancelled"

/-- Whether the request was given up on purpose. -/
def isGivenUp : Failure → Bool
  | .givenUp => true
  | _ => false

end Failure

end ShaderSketch.Service
