import ShaderSketch.Files.Path

/-!
# Export paths

The path of a picture has to name a file with the extension `png`, in any mix of cases.

## Main definitions

* `ExportPath.fileName?` : the name of the file that a path leads to
* `ExportPath.extension?` : its extension
* `ExportPath.read` : the path of a picture

## Design notes

Trailing slashes and trailing `.` segments do not count, `..` names no file, and a dot that starts a
name starts no extension.
-/

namespace ShaderSketch.ExportPath

/-- The name of the file that a path leads to. -/
def fileName? (path : List Char) : Option (List Char) :=
  match ((Text.splitOn '/' path).filter fun s => s ≠ [] ∧ s ≠ ['.']).getLast? with
  | some name => if name = ['.', '.'] then none else some name
  | none => none

/-- The extension of a name: what follows its last dot, unless that dot is its first character. -/
def extension? (name : List Char) : Option (List Char) :=
  let tail := (name.reverse.takeWhile (· ≠ '.')).reverse
  if name.length ≤ tail.length + 1 then none else some tail

/-- Why a path is no path of a picture. -/
inductive Error
  | noExtension
  | otherFormat (extension : List Char)
  deriving Repr, DecidableEq

/-- The wording of an error. -/
def Error.message : Error → String
  | .noExtension => "export path has no extension; expected .png"
  | .otherFormat extension =>
    "unsupported export format '." ++ String.ofList extension ++ "'; expected .png"

/-- The path of a picture, exactly as it is spelled. -/
def read (text : String) : Except Error Path :=
  match (fileName? text.toList).bind extension? with
  | none => .error .noExtension
  | some extension =>
    let lower := extension.map Char.toLower
    if lower = "png".toList then .ok (.ofText text) else .error (.otherFormat lower)

end ShaderSketch.ExportPath
