import ShaderSketch.Text.Lines
import ShaderSketch.Text.Search

/-!
# Declarations in shader sources

A line declares a name when it starts, after blanks, with a qualifier such as `uniform` and a blank.
The name is the last word in front of the first semicolon, less the size of an array.

## Main definitions

* `Gl.declaredName?` : the name that a line declares
* `Gl.declaredNames` : the names that a source declares, in the order of its lines
* `Gl.missingVaryings` : what a fragment stage reads and its vertex stage does not write
-/

namespace ShaderSketch.Gl

/-- The name that a line declares under a qualifier. -/
def declaredName? (qualifier line : List Char) : Option (List Char) := do
  let rest ← Text.afterStart? qualifier (Text.trimStart line)
  guard ((rest.head?.map Text.isBlank).getD false)
  let word ← Text.lastWord? (rest.takeWhile (· ≠ ';'))
  return word.takeWhile (· ≠ '[')

/-- The names that a source declares under a qualifier, in the order of its lines. -/
def declaredNames (qualifier : String) (source : List Char) : List String :=
  (Text.lines source).filterMap fun line =>
    (declaredName? qualifier.toList line).map String.ofList

/-- The names that a fragment stage reads and its vertex stage does not write. -/
def missingVaryings (vertex fragment : List Char) : List String :=
  (declaredNames "varying" fragment).filter fun name =>
    !(declaredNames "varying" vertex).contains name

/-- The wording for a name that no vertex stage writes. -/
def missingVarying (name : String) : String :=
  "error: varying `" ++ name ++ "` is not written by the vertex shader"

/-- Whether the stages fit together: the wording, a line for each name that is missing. -/
def checkStages (vertex fragment : List Char) : Except String Unit :=
  match missingVaryings vertex fragment with
  | [] => .ok ()
  | missing => .error ("\n".intercalate (missing.map missingVarying))

end ShaderSketch.Gl
