import ShaderSketch.Text.Lines
import ShaderSketch.Text.Search

/-!
# The syntax check of shader sources

A source passes when its braces and its parentheses balance and it speaks of `main`. The two kinds
of brackets are counted apart and may cross.

## Main definitions

* `Gl.Depth` : how many braces and parentheses are open
* `Gl.SyntaxError` : what is wrong with a source, and `Gl.SyntaxError.message`, the wording
* `Gl.checkBrackets` : the check
-/

namespace ShaderSketch.Gl

/-- How many braces and how many parentheses are open. -/
structure Depth where
  braces : Nat := 0
  parens : Nat := 0
  deriving Repr, DecidableEq

/-- The depth after one more character; a bracket that closes nothing has none. -/
def Depth.next? (d : Depth) (c : Char) : Option Depth :=
  if c = '\x7b' then some { d with braces := d.braces + 1 }
  else if c = '\x7d' then
    if d.braces = 0 then none else some { d with braces := d.braces - 1 }
  else if c = '(' then some { d with parens := d.parens + 1 }
  else if c = ')' then
    if d.parens = 0 then none else some { d with parens := d.parens - 1 }
  else some d

/-- What is wrong with a source: a bracket that closes nothing, brackets left open at the end, or
no `main`. -/
inductive SyntaxError
  | unexpected (line : Nat) (bracket : Char)
  | unclosed (line : Nat)
  | noMain
  deriving Repr, DecidableEq

/-- The wording of an error. -/
def SyntaxError.message : SyntaxError → String
  | .unexpected line bracket =>
    "ERROR: 0:" ++ toString line ++ ": '" ++ bracket.toString ++ "' : syntax error"
  | .unclosed line => "ERROR: 0:" ++ toString line ++ ": '' : syntax error: unexpected end of file"
  | .noMain => "ERROR: 0:1: 'main' : function not defined"

/-- The depth after a line, or the bracket of it that closes nothing. -/
def Depth.scan (d : Depth) : List Char → Except Char Depth
  | [] => .ok d
  | c :: s =>
    match d.next? c with
    | some d => d.scan s
    | none => .error c

/-- The depth and the number of the last line after some more lines. -/
def Depth.scanLines (d : Depth) (line : Nat) : List (List Char) → Except SyntaxError (Depth × Nat)
  | [] => .ok (d, line)
  | l :: ls =>
    match d.scan l with
    | .ok d => d.scanLines (line + 1) ls
    | .error bracket => .error (.unexpected (line + 1) bracket)

/-- Whether a source passes. -/
def checkBrackets (source : List Char) : Except SyntaxError Unit :=
  match Depth.scanLines {} 0 (Text.lines source) with
  | .error e => .error e
  | .ok (depth, line) =>
    if depth.braces ≠ 0 ∨ depth.parens ≠ 0 then .error (.unclosed (max line 1))
    else if Text.contains "main".toList source then .ok ()
    else .error .noMain

end ShaderSketch.Gl
