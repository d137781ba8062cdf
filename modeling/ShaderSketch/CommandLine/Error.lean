import ShaderSketch.CommandLine.Arguments

/-!
# Refused command lines

## Main definitions

* `CommandLine.Stop` : why a command line is not carried out
* `CommandLine.Stop.message` : what is printed
* `CommandLine.Stop.exitCode` : the exit status
* `CommandLine.helpText`, `CommandLine.versionText` : the answers to the two flags
-/

namespace ShaderSketch.CommandLine

/-- The flags that are answered at once. -/
inductive Flag
  | help
  | version
  deriving Repr, DecidableEq

/-- The name of a flag. -/
def Flag.name : Flag → String
  | .help => "help"
  | .version => "version"

/-- Why a command line is not carried out. -/
inductive Stop
  | answered (flag : Flag)
  | unknownArgument (shown : String)
  | missingValue (p : Parameter)
  | invalidValue (p : Parameter) (value reason : String)
  | unexpectedValue (flag : Flag) (value : String)
  | usedTwice (p : Parameter)
  | conflict (first second : Parameter)
  | invalidUtf8
  deriving Repr, DecidableEq

/-- The answer to the version flag. -/
def versionText : String := "text2shader 0.1.0\n"

/-- What the help text says about an option. -/
def summary : Parameter → String
  | .prompt =>
    "What the shader should look like (e.g. \"a colorful gradient that changes with time\")"
  | .source => "Render a fragment shader from disk instead of generating one"
  | .endpoint => "Base URL of the shader service; can also be supplied via `TEXT2SHADER_API`"
  | .timeout => "Give up on a generation request after this many seconds"
  | .size => "Window size (e.g. `800x600`)"
  | .exportTo => "Write the first rendered frame to the provided PNG path then exit"
  | .config => "Settings file to use instead of `config.toml` in the config directory"

/-- The column where the help text describes options. -/
def helpColumn : Nat := 29

/-- A text filled up with spaces to the column of the descriptions. -/
def fillUp (s : String) : String :=
  s ++ String.ofList (List.replicate (helpColumn - s.length) ' ')

/-- A description, whose further lines start where it starts. -/
def indent (s : String) : String :=
  String.ofList <| s.toList.flatMap fun c =>
    if c = '\n' then '\n' :: List.replicate helpColumn ' ' else [c]

/-- The answer to the help flag, which shows the value that the endpoint has in the environment. -/
def helpText (endpoint : String) : String :=
  let option (p : Parameter) : String :=
    let environment := if p = .endpoint then " [env: TEXT2SHADER_API=" ++ endpoint ++ "]" else ""
    fillUp ("      " ++ p.shown) ++ indent (summary p ++ environment) ++ "\n"
  "Describe a shader in plain words and watch it render\n\n"
    ++ "Usage: text2shader [OPTIONS] [PROMPT]\n\n"
    ++ "Arguments:\n  [PROMPT]  " ++ summary .prompt ++ "\n\n"
    ++ "Options:\n" ++ String.join (Parameter.named.map option)
    ++ fillUp "  -h, --help" ++ "Print help\n"
    ++ fillUp "  -V, --version" ++ "Print version\n"

namespace Stop

/-- What is printed, given the value that the endpoint has in the environment: the answer to a flag,
or the first line of an error. -/
def message (endpoint : String) : Stop → String
  | .answered .help => helpText endpoint
  | .answered .version => versionText
  | .unknownArgument shown => "error: unexpected argument '" ++ shown ++ "' found"
  | .missingValue p => "error: a value is required for '" ++ p.shown ++ "' but none was supplied"
  | .invalidValue p value reason =>
    "error: invalid value '" ++ value ++ "' for '" ++ p.shown ++ "': " ++ reason
  | .unexpectedValue flag value =>
    "error: unexpected value '" ++ value ++ "' for '--" ++ flag.name
      ++ "' found; no more were expected"
  | .usedTwice p => "error: the argument '" ++ p.shown ++ "' cannot be used multiple times"
  | .conflict first second =>
    "error: the argument '" ++ first.shown ++ "' cannot be used with '" ++ second.shown ++ "'"
  | .invalidUtf8 => "error: invalid UTF-8 was detected in one or more arguments"

/-- The exit status: a flag that was answered is no failure. -/
def exitCode : Stop → Nat
  | .answered _ => 0
  | _ => 2

end Stop

end ShaderSketch.CommandLine
