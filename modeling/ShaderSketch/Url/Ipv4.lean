import ShaderSketch.Text.Lines
import ShaderSketch.Url.Error

/-!
# Numeric host names

Host names whose last part is a number are addresses of 32 bits. Up to four parts, each decimal,
octal or hexadecimal; the last part fills the bytes that the parts before it leave.

## Main definitions

* `Url.Ipv4.part?` : the value of one part
* `Url.Ipv4.isNumeric` : whether a host name is to be read as an address
* `Url.Ipv4.read` : the address
* `Url.Ipv4.render` : an address in four decimal parts
-/

namespace ShaderSketch.Url.Ipv4

/-- The value of a digit, in any case. -/
def digit? (c : Char) : Option Nat :=
  let n := c.toNat
  if 0x30 ≤ n ∧ n ≤ 0x39 then some (n - 0x30)
  else if 0x61 ≤ n ∧ n ≤ 0x66 then some (n - 0x61 + 10)
  else if 0x41 ≤ n ∧ n ≤ 0x46 then some (n - 0x41 + 10)
  else none

/-- The value of digits of a base. -/
def inBase? (base value : Nat) : List Char → Option Nat
  | [] => some value
  | c :: s =>
    match digit? c with
    | some d => if d < base then inBase? base (value * base + d) s else none
    | none => none

/-- The value of one part: hexadecimal after `0x`, octal after `0`, decimal otherwise. -/
def part? : List Char → Option Nat
  | [] => none
  | '0' :: 'x' :: s => inBase? 16 0 s
  | '0' :: 'X' :: s => inBase? 16 0 s
  | ['0'] => some 0
  | '0' :: s => inBase? 8 0 s
  | s => inBase? 10 0 s

/-- The parts of a host name; an empty last one does not count. -/
def parts (host : List Char) : List (List Char) :=
  let ps := Text.splitOn '.' host
  if ps.getLast? = some [] then ps.dropLast else ps

/-- Whether a host name is to be read as an address: its last part is a number or has only decimal
digits. -/
def isNumeric (host : List Char) : Bool :=
  match (parts host).getLast? with
  | some last => (!last.isEmpty && last.all fun c => '0' ≤ c && c ≤ '9') || (part? last).isSome
  | none => false

/-- The sum of the leading parts, each one byte, the first the highest. -/
def leading (place : Nat) : List Nat → Nat
  | [] => 0
  | n :: ns => n * Nat.pow 256 place + leading (place - 1) ns

/-- The address that a host name stands for. -/
def read (host : List Char) : Except Error Nat :=
  let ps := parts host
  match ps.mapM part? with
  | none => .error .invalidIpv4
  | some ns =>
    match ns.getLast? with
    | none => .error .invalidIpv4
    | some last =>
      let front := ns.dropLast
      if 4 < ns.length then .error .invalidIpv4
      else if Nat.pow 256 (4 - front.length) ≤ last then .error .invalidIpv4
      else if front.any (255 < ·) then .error .invalidIpv4
      else .ok (last + leading 3 front)

/-- An address in four decimal parts. -/
def render (n : Nat) : List Char :=
  let part (k : Nat) : List Char := Nat.toDigits 10 (n / Nat.pow 256 k % 256)
  part 3 ++ '.' :: part 2 ++ '.' :: part 1 ++ '.' :: part 0

end ShaderSketch.Url.Ipv4
