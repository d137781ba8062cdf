import ShaderSketch.Text.Blank
import ShaderSketch.Text.Lines
import ShaderSketch.Text.Natural

/-!
# Window sizes

A size is spelled as width, `x` or `X`, and height, with blanks anywhere between.

## Main definitions

* `Size` : a width and a height
* `Size.read` : the size that a text spells
* `Size.Error` : why it spells none
-/

namespace ShaderSketch

/-- A width and a height in pixels. -/
structure Size where
  width : UInt32
  height : UInt32
  deriving Repr, DecidableEq

namespace Size

/-- Why a text spells no size. -/
inductive Error
  | noSeparator
  | invalidWidth (text : List Char)
  | invalidHeight (text : List Char)
  | zero
  deriving Repr, DecidableEq

/-- The wording of an error. -/
def Error.message : Error → String
  | .noSeparator => "expected WIDTHxHEIGHT"
  | .invalidWidth text => "invalid width '" ++ String.ofList text ++ "'"
  | .invalidHeight text => "invalid height '" ++ String.ofList text ++ "'"
  | .zero => "window dimensions must be greater than zero"

/-- Whether a character stands between width and height. -/
def isSeparator (c : Char) : Bool := c = 'x' || c = 'X'

/-- The size that a text spells. -/
def read (text : String) : Except Error Size :=
  match Text.cutAt isSeparator (Text.trim text.toList) with
  | none => .error .noSeparator
  | some (w, h) =>
    match Natural.read Natural.limit32 (Text.trim w) with
    | .error _ => .error (.invalidWidth (Text.trim w))
    | .ok width =>
      match Natural.read Natural.limit32 (Text.trim h) with
      | .error _ => .error (.invalidHeight (Text.trim h))
      | .ok height =>
        if width = 0 ∨ height = 0 then .error .zero
        else .ok ⟨UInt32.ofNat width, UInt32.ofNat height⟩

end Size

end ShaderSketch
