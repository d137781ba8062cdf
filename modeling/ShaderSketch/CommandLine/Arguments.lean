import ShaderSketch.CommandLine.Size
import ShaderSketch.Files.ExportPath

/-!
# Arguments

## Main definitions

* `Parameter` : what can be given on the command line
* `Arguments` : what was given
-/

namespace ShaderSketch

/-- What can be given on the command line. -/
inductive Parameter
  | prompt
  | source
  | endpoint
  | timeout
  | size
  | exportTo
  | config
  deriving Repr, DecidableEq

namespace Parameter

/-- The parameters with a name, in the order of the help text. -/
def named : List Parameter := [source, endpoint, timeout, size, exportTo, config]

/-- The name of an option; the prompt has none and stands by itself. -/
def name : Parameter → String
  | .prompt => ""
  | .source => "source"
  | .endpoint => "endpoint"
  | .timeout => "timeout"
  | .size => "size"
  | .exportTo => "export"
  | .config => "config"

/-- What stands for the value in messages. -/
def valueName : Parameter → String
  | .prompt => "PROMPT"
  | .source | .config => "FILE"
  | .endpoint => "URL"
  | .timeout => "SECONDS"
  | .size => "WIDTHxHEIGHT"
  | .exportTo => "PATH"

/-- How messages spell a parameter. -/
def shown : Parameter → String
  | .prompt => "[PROMPT]"
  | p => "--" ++ p.name ++ " <" ++ p.valueName ++ ">"

/-- The parameter of a name. -/
def ofName? (name : String) : Option Parameter := named.find? (·.name = name)

end Parameter

/-- What was given on the command line, and the endpoint from the environment where none was. -/
structure Arguments where
  prompt : Option String := none
  source : Option Path := none
  endpoint : Option String := none
  timeout : Option Nat := none
  size : Option Size := none
  exportTo : Option Path := none
  config : Option Path := none
  deriving Repr, DecidableEq

end ShaderSketch
