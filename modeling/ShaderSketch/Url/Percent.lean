import ShaderSketch.Text.Utf8

/-!
# Percent encoding

Bytes written as `%` and two hexadecimal digits.

## Main definitions

* `Url.Percent.encode` : a text with the characters of a set, and all beyond ASCII, written by
  their bytes
* `Url.Percent.decode` : the bytes of a text with every written byte put back
* `Url.Percent.inFragment`, `Url.Percent.inPath`, `Url.Percent.inUserinfo`,
  `Url.Percent.inSpecialQuery` : the characters that the parts of a URL do not hold
-/

namespace ShaderSketch.Url.Percent

/-- Controls and the characters beyond ASCII, which no part holds. -/
def inAny (c : Char) : Bool := c.toNat < 0x20 || 0x7f ≤ c.toNat

/-- The characters that a fragment does not hold. -/
def inFragment (c : Char) : Bool := inAny c || [' ', '"', '<', '>', '\x60'].contains c

/-- The characters that a path does not hold. -/
def inPath (c : Char) : Bool := inFragment c || ['#', '?', '\x7b', '\x7d'].contains c

/-- The characters that a user name or password does not hold. -/
def inUserinfo (c : Char) : Bool :=
  inPath c || ['/', ':', ';', '=', '@', '[', '\\', ']', '^', '|'].contains c

/-- The characters that the query of a web address does not hold. -/
def inSpecialQuery (c : Char) : Bool := inAny c || [' ', '"', '#', '<', '>', '\''].contains c

/-- The digit of a number below 16, in upper case. -/
def hexDigit (n : Nat) : Char := Char.ofNat (if n < 10 then 0x30 + n else 0x41 + (n - 10))

/-- A byte as it is written. -/
def encodeByte (b : UInt8) : List Char := ['%', hexDigit (b.toNat / 16), hexDigit (b.toNat % 16)]

/-- A text with the characters of a set written by their bytes. -/
def encode (set : Char → Bool) (s : List Char) : List Char :=
  s.flatMap fun c => if set c then (String.utf8EncodeChar c).flatMap encodeByte else [c]

/-- The value of a hexadecimal digit. -/
def hexValue? (b : UInt8) : Option Nat :=
  if 0x30 ≤ b ∧ b ≤ 0x39 then some (b.toNat - 0x30)
  else if 0x41 ≤ b ∧ b ≤ 0x46 then some (b.toNat - 0x41 + 10)
  else if 0x61 ≤ b ∧ b ≤ 0x66 then some (b.toNat - 0x61 + 10)
  else none

/-- Bytes with every written byte put back; a `%` without two digits stays. -/
def decodeBytes : List UInt8 → List UInt8
  | 0x25 :: a :: b :: s =>
    match hexValue? a, hexValue? b with
    | some m, some n => UInt8.ofNat (m * 16 + n) :: decodeBytes s
    | _, _ => 0x25 :: decodeBytes (a :: b :: s)
  | b :: s => b :: decodeBytes s
  | [] => []

/-- The bytes of a text with every written byte put back. -/
def decode (s : List Char) : List UInt8 := decodeBytes (Utf8.encode s)

end ShaderSketch.Url.Percent
