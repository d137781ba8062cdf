import ShaderSketch.CommandLine.Arguments
import ShaderSketch.Service.Endpoint
import ShaderSketch.Settings

/-!
# Options

What a run does, from the command line, the settings and the defaults, in this order of precedence.

## Main definitions

* `Opening` : what comes on screen first
* `Options` : what a run does
* `Options.combine` : the options of a command line and settings
* `Options.Error` : why there are none
-/

namespace ShaderSketch

/-- What comes on screen first: the initial source alone, a source for a prompt, or one from a
file. -/
inductive Opening
  | initial
  | prompt (text : String)
  | file (path : Path)
  deriving Repr, DecidableEq

/-- Title and size of a window, and whether it is shown. -/
structure WindowSpec where
  title : String
  width : UInt32
  height : UInt32
  visible : Bool
  deriving Repr, DecidableEq

/-- What a run does: the service it asks, its window, what comes on screen first, and where a
picture of that is written. -/
structure Options where
  service : Service.Endpoint
  window : WindowSpec
  opening : Opening
  exportTo : Option Path
  deriving Repr, DecidableEq

namespace Options

/-- Why there are no options. -/
inductive Error
  | zeroTimeout
  | endpoint (e : Service.Endpoint.Error)
  | zeroSize (width height : UInt32)
  deriving Repr, DecidableEq

/-- The wording of an error, from the general to the particular. -/
def Error.chain : Error → List String
  | .zeroTimeout => ["request timeout must be at least one second"]
  | .endpoint e => ["invalid shader service endpoint", e.message]
  | .zeroSize width height =>
    ["window dimensions must be greater than zero (got " ++ toString width ++ "x"
      ++ toString height ++ ")"]

/-- The endpoint: a blank one on the command line counts as none, one in the settings does not. -/
def chooseEndpoint (a : Arguments) (s : Settings) : String :=
  ((a.endpoint.filter fun e => !Text.blank e) <|> s.endpoint).getD Service.Endpoint.defaultText

/-- The timeout in seconds. -/
def chooseTimeout (a : Arguments) (s : Settings) : Nat :=
  (a.timeout <|> s.timeout).getD Service.Endpoint.defaultTimeout

/-- The size of the window. -/
def chooseSize (a : Arguments) (s : Settings) : Size :=
  a.size.getD ⟨s.window.width, s.window.height⟩

/-- What comes on screen first: a prompt counts unless it is blank, and before a source. -/
def chooseOpening (a : Arguments) : Opening :=
  match a.prompt.filter fun p => !Text.blank p, a.source with
  | some prompt, _ => .prompt prompt
  | none, some path => .file path
  | none, none => .initial

/-- The options of a command line and settings. -/
def combine (a : Arguments) (s : Settings) : Except Error Options :=
  if chooseTimeout a s = 0 then .error .zeroTimeout
  else
    match Service.Endpoint.ofText (chooseEndpoint a s) with
    | .error e => .error (.endpoint e)
    | .ok service =>
      let size := chooseSize a s
      if size.width = 0 ∨ size.height = 0 then .error (.zeroSize size.width size.height)
      else
        .ok {
          service := service.withTimeout (chooseTimeout a s)
          window := ⟨s.window.title, size.width, size.height, a.exportTo.isNone⟩
          opening := chooseOpening a
          exportTo := a.exportTo }

end Options

end ShaderSketch
