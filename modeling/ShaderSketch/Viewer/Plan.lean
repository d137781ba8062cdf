import ShaderSketch.CommandLine.Parse
import ShaderSketch.Viewer.Error

/-!
# Plans

Everything that can be found out before a window opens: the settings, the options, and the source
that comes from a file.

## Main definitions

* `Viewer.Plan` : the options of a run and the source from a file
* `Viewer.settingsPath`, `Viewer.options` : where the settings are, and the options with them
* `Viewer.plan` : the plan for given arguments
-/

namespace ShaderSketch.Viewer

/-- The options of a run, and the source where a file has it. -/
structure Plan where
  options : Options
  source : Option String
  deriving Repr, DecidableEq

/-- Where the settings are: where the command line says, else in the directory for them. -/
def settingsPath (e : Environment) (a : Arguments) : Except Error Path :=
  match a.config, e.configDirectory? with
  | some path, _ => .ok path
  | none, some directory => .ok (Environment.settingsFile directory)
  | none, none => .error .noConfigDirectory

/-- The options for given arguments. -/
def options (e : Environment) (files : Tree) (a : Arguments) : Except Error Options := do
  let path ← settingsPath e a
  let settings ← (Settings.load files path).mapError .settings
  (Options.combine a settings).mapError .options

/-- The source that comes from a file. -/
def sourceText (files : Tree) : Opening → Except Error (Option String)
  | .file path => ((files.readText path).mapError (.source path)).map some
  | .initial | .prompt _ => .ok none

/-- The plan for given arguments. -/
def plan (e : Environment) (files : Tree) (a : Arguments) : Except Error Plan := do
  let options ← options e files a
  return ⟨options, ← sourceText files options.opening⟩

/-- Whether prompts are read while the window is open: not for a picture, and not beside a source
from a file. -/
def Plan.readsPrompts (p : Plan) : Bool :=
  p.options.exportTo.isNone &&
    match p.options.opening with
    | .file _ => false
    | .initial | .prompt _ => true

end ShaderSketch.Viewer
