/-!
# Decimal numbers

## Main definitions

* `Natural.read` : the number that a text spells, up to a limit
* `Natural.Error` : why it spells none
-/

namespace ShaderSketch.Natural

/-- Why a text spells no number: it is empty, a character is no digit, or the number is past the
limit. -/
inductive Error
  | empty
  | invalidDigit
  | tooLarge
  deriving Repr, DecidableEq

/-- The wording of an error. -/
def Error.message : Error → String
  | .empty => "cannot parse integer from empty string"
  | .invalidDigit => "invalid digit found in string"
  | .tooLarge => "number too large to fit in target type"

/-- The value of a digit. -/
def digit? (c : Char) : Option Nat :=
  if '0' ≤ c ∧ c ≤ '9' then some (c.toNat - '0'.toNat) else none

/-- The number that further digits make of one; the first character that is wrong decides. -/
def extend (limit : Nat) (n : Nat) : List Char → Except Error Nat
  | [] => .ok n
  | c :: s =>
    match digit? c with
    | none => .error .invalidDigit
    | some d => if limit < 10 * n + d then .error .tooLarge else extend limit (10 * n + d) s

/-- The number that a text spells: digits, after a plus sign or not. -/
def read (limit : Nat) : List Char → Except Error Nat
  | [] => .error .empty
  | ['+'] => .error .invalidDigit
  | '+' :: s => extend limit 0 s
  | s => extend limit 0 s

/-- The greatest number of 32 bits. -/
def limit32 : Nat := 0xffffffff

/-- The greatest number of 64 bits. -/
def limit64 : Nat := 0xffffffffffffffff

end ShaderSketch.Natural
