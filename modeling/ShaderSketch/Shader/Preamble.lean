import ShaderSketch.Text.Search

/-!
# The preamble of fragment sources

Some dialects refuse a fragment source without a default precision, and others do not know the
statement; so a guarded one is put in front of a source that does not speak of precision itself.

## Main definitions

* `Shader.preamble` : the guarded statement
* `Shader.mentionsPrecision` : whether a source speaks of precision itself
* `Shader.prepare` : what is compiled for a fragment source

## Design notes

A version directive has to stay the first line, so the preamble goes behind it.
-/

namespace ShaderSketch.Shader

/-- A default precision, for the dialects that ask for one. -/
def preamble : String := "#ifdef GL_ES\nprecision mediump float;\n#endif\n\n"

/-- Whether a source speaks of precision. -/
def mentionsPrecision (source : List Char) : Bool := Text.contains "precision".toList source

/-- A source cut behind the version directive that is its first line after blanks, with the line
feed of that line. -/
def splitDirective? (source : List Char) : Option (List Char × List Char) :=
  let blanks := source.takeWhile Text.isBlank
  let rest := source.dropWhile Text.isBlank
  if "#version".toList.isPrefixOf rest then
    let line := rest.takeWhile (· ≠ '\n')
    match rest.dropWhile (· ≠ '\n') with
    | [] => some (blanks ++ line, [])
    | feed :: body => some (blanks ++ line ++ [feed], body)
  else none

/-- A source with the preamble in the right place. -/
def insertPreamble (source : List Char) : List Char :=
  match splitDirective? source with
  | some (directive, body) =>
    directive ++ (if directive.getLast? = some '\n' then [] else ['\n'])
      ++ preamble.toList ++ body
  | none => preamble.toList ++ source

/-- What is compiled for a fragment source: the source itself when it speaks of precision, and else
the source with the preamble. -/
def prepare (source : String) : String :=
  if mentionsPrecision source.toList then source
  else String.ofList (insertPreamble source.toList)

end ShaderSketch.Shader
