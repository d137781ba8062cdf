import ShaderSketch.Canvas.Failure
import ShaderSketch.Options
import ShaderSketch.Service.Failure

/-!
# Failed runs

## Main definitions

* `Viewer.Error` : why a run does not end well
* `Viewer.Error.chain` : its wording, from the general to the particular
* `Viewer.Error.message`, `Viewer.Error.report` : its wording on one line and as it is printed
-/

namespace ShaderSketch

/-- The wording of an error, from the general to the particular. What the encoder says is said
within the whole and by itself. -/
def Canvas.PictureFailure.chain : Canvas.PictureFailure → List String
  | .file reason => [(Canvas.PictureFailure.file reason).message, reason]
  | e => [e.message]

/-- The wording of an error, from the general to the particular. -/
def Settings.LoadError.chain : Settings.LoadError → List String
  | .unreadable path e => ["failed to read settings file at " ++ path.shown, e.message]
  | .malformed path .syntaxError =>
    ["failed to parse settings file at " ++ path.shown, "TOML parse error"]
  | .malformed path (.data text) =>
    ["failed to parse settings file at " ++ path.shown, "TOML parse error\n" ++ text]

namespace Viewer

/-- Why a run does not end well. -/
inductive Error
  | noConfigDirectory
  | settings (e : Settings.LoadError)
  | options (e : Options.Error)
  | source (path : Path) (e : FileError)
  | workers (reason : String)
  | client (e : Service.Failure)
  | eventLoop (reason : String)
  | window (reason : String)
  | loop (reason : String)
  | shader (message : String)
  | picture (path : Path) (e : Canvas.PictureFailure)
  deriving Repr, DecidableEq

namespace Error

/-- The wording of an error, from the general to the particular. -/
def chain : Error → List String
  | .noConfigDirectory => ["unable to determine a config directory for text2shader"]
  | .settings e => e.chain
  | .options e => e.chain
  | .source path e => ["failed to read shader source at " ++ path.shown, e.message]
  | .workers reason => ["failed to start async runtime", reason]
  | .client e => ["failed to construct shader service client", e.message]
  | .eventLoop reason => ["failed to create event loop", reason]
  | .window reason => ["failed to create window: " ++ reason]
  | .loop reason => ["event loop terminated abnormally", reason]
  | .shader message => [message]
  | .picture path e => ("failed to export frame to " ++ path.shown) :: e.chain

/-- The wording of an error on one line. -/
def message (e : Error) : String := String.intercalate ": " e.chain

/-- A cause as it is printed: further lines start where the first starts, and one of several causes
is numbered. -/
def indentCause (number : Option Nat) (cause : String) : String :=
  let first := match number with
    | some n => String.ofList (List.replicate (5 - (toString n).length) ' ') ++ toString n ++ ": "
    | none => "    "
  let further := String.ofList (List.replicate (if number.isSome then 7 else 4) ' ')
  first ++ String.intercalate ("\n" ++ further) ((Text.splitLines cause.toList).map String.ofList)

/-- The causes as they are printed. -/
def causeLines : List String → List String
  | [] => []
  | [cause] => ["", "Caused by:", indentCause none cause]
  | causes =>
    ["", "Caused by:"] ++ (causes.zipIdx.map fun (cause, n) => indentCause (some n) cause)

/-- What is printed about an error. -/
def report (e : Error) : String :=
  String.intercalate "\n" (("Error: " ++ e.chain.headD "") :: causeLines e.chain.tail)

end Error

end Viewer

end ShaderSketch
