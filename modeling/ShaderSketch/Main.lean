import ShaderSketch.Program

/-!
# The command line

Collects the arguments, the environment and the files that a run looks at, and prints what comes of
them.
-/

namespace ShaderSketch.CommandLine

/-- The variables that a run looks at. -/
def namesOfInterest : List String :=
  [Service.Endpoint.variableName, Environment.configDirectoryVariable, "XDG_CONFIG_HOME", "HOME"]

/-- The environment of the program. -/
def environment : IO Environment := do
  let mut values : List (String × List UInt8) := []
  for name in namesOfInterest do
    if let some value ← IO.getEnv name then
      values := (name, Utf8.encode value.toList) :: values
  return { values }

/-- The tree with what is at a path taken over from the file system, as far as it can be read. -/
def takeOver (files : Tree) (path : Path) : IO Tree := do
  try
    let data ← IO.FS.readBinFile path.shown
    return files.putFile path data.toList
  catch
    | .noFileOrDirectory .. => return files
    | _ => return files.putDirectory (files.namedPlace path)

/-- The paths that a run reads from. -/
def pathsOfInterest (e : Environment) (words : List (List UInt8)) : List Path :=
  match parse e words with
  | .ok a =>
    let settings := match Viewer.settingsPath e a with
      | .ok path => [path]
      | .error _ => []
    settings ++ a.source.toList
  | .error _ => []

end ShaderSketch.CommandLine

open ShaderSketch in
/-- Runs the program. -/
def main (arguments : List String) : IO UInt32 := do
  let words := arguments.map fun word => Utf8.encode word.toList
  let environment ← CommandLine.environment
  let directory ← IO.currentDir
  let start := Tree.workingAt ((Path.ofText directory.toString).segments.filter (· ≠ []))
  let files ← (CommandLine.pathsOfInterest environment words).foldlM CommandLine.takeOver start
  let ending := Program.ending environment files words
  (← IO.getStdout).putStr ending.printed
  (← IO.getStderr).putStr ending.errors
  return UInt32.ofNat ending.status
