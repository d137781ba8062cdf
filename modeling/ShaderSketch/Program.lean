import ShaderSketch.Viewer.Session

/-!
# The program

What the program prints and the status that it ends with, on a machine without a display.

## Main definitions

* `Program.Ending` : what is printed, and the exit status
* `Program.ending` : how the program ends
-/

namespace ShaderSketch.Program

/-- What is printed, what is printed about errors, and the exit status. -/
structure Ending where
  status : Nat := 0
  printed : String := ""
  errors : String := ""
  deriving Repr, DecidableEq

/-- How the program ends on a command line that it does not carry out. -/
def refusal (e : Environment) (stop : CommandLine.Stop) : Ending :=
  let message := stop.message (CommandLine.shownEndpoint e)
  match stop with
  | .answered _ => { status := stop.exitCode, printed := message }
  | _ => { status := stop.exitCode, errors := message ++ "\n" }

/-- How the program ends on a run that does not end well. -/
def failure (e : Viewer.Error) : Ending := { status := 1, errors := e.report ++ "\n" }

/-- What is said when there is no display to open a window on. -/
def noDisplay : String := "neither WAYLAND_DISPLAY nor WAYLAND_SOCKET nor DISPLAY is set."

/-- How the program ends. -/
def ending (e : Environment) (files : Tree) (words : List (List UInt8)) : Ending :=
  match CommandLine.parse e words with
  | .error stop => refusal e stop
  | .ok arguments =>
    match (Viewer.run { loopCreation := some noDisplay } e files arguments []).failure with
    | some e => failure e
    | none => {}

end ShaderSketch.Program
