import ShaderSketch.Files.Path
import ShaderSketch.Text.Utf8

/-!
# The environment

## Main definitions

* `Environment` : variables and the home directory of the account
* `Environment.text?` : the value of a variable, as far as it is text
* `Environment.configDirectory?`, `Environment.settingsFile` : where the settings are

## Design notes

The settings are where a variable of this program says, else below the directory for configuration,
else below the home directory. Values that cannot be meant are passed over: empty ones, and a
directory for configuration that is not absolute.
-/

namespace ShaderSketch

/-- Variables with their values, and the home directory of the account, which counts where no
variable names one. -/
structure Environment where
  values : List (String × List UInt8) := []
  accountHome : Option Path := none

namespace Environment

/-- The variable that names the directory of the settings. -/
def configDirectoryVariable : String := "TEXT2SHADER_CONFIG_DIR"

/-- The value of a variable. -/
def get? (e : Environment) (name : String) : Option (List UInt8) := e.values.lookup name

/-- The value of a variable that is set to text. -/
def text? (e : Environment) (name : String) : Option String := do
  return String.ofList (← Utf8.decode? (← e.get? name))

/-- The path in a variable that is set and not empty. -/
def path? (e : Environment) (name : String) : Option Path :=
  ((e.get? name).filter (· ≠ [])).map Path.mk

/-- The home directory. -/
def home? (e : Environment) : Option Path := e.path? "HOME" <|> e.accountHome

/-- The directory for the configuration of all programs. -/
def configHome? (e : Environment) : Option Path :=
  (e.path? "XDG_CONFIG_HOME").filter Path.isAbsolute
    <|> e.home?.map (·.join (.ofText ".config"))

/-- The directory of the settings. -/
def configDirectory? (e : Environment) : Option Path :=
  e.path? configDirectoryVariable <|> e.configHome?.map (·.join (.ofText "text2shader"))

/-- The file with the settings in a directory. -/
def settingsFile (directory : Path) : Path := directory.join (.ofText "config.toml")

end Environment

end ShaderSketch
