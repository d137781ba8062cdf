/-!
# Punycode

Labels beyond ASCII written with letters, digits and hyphens: the ASCII characters in front, then
the places and values of the others as numbers of variable length.

## Main definitions

* `Punycode.encode?`, `Punycode.decode?` : the two directions

## Design notes

Numbers are natural numbers; a value past the code points or past 32 bits refuses the text, so no
arithmetic wraps.
-/

namespace ShaderSketch.Idna.Punycode

/-- The bound of the numbers in an encoded text. -/
def limit : Nat := 0x100000000

/-- How far the next number is expected to reach. -/
def adapt (delta count : Nat) (first : Bool) : Nat :=
  let d := if first then delta / 700 else delta / 2
  let d := d + d / count
  let rec settle : (tries d k : Nat) → Nat
    | 0, d, k => k + 36 * d / (d + 38)
    | tries + 1, d, k =>
      if 455 < d then settle tries (d / 35) (k + 36) else k + 36 * d / (d + 38)
  settle 8 d 0

/-- The digit weight at a place. -/
def threshold (k bias : Nat) : Nat :=
  if k ≤ bias then 1 else if bias + 26 ≤ k then 26 else k - bias

/-- The value of a digit. -/
def digit? (c : Char) : Option Nat :=
  let n := c.toNat
  if 0x61 ≤ n ∧ n ≤ 0x7a then some (n - 0x61)
  else if 0x41 ≤ n ∧ n ≤ 0x5a then some (n - 0x41)
  else if 0x30 ≤ n ∧ n ≤ 0x39 then some (n - 0x30 + 26)
  else none

/-- The digit with a value. -/
def digit (n : Nat) : Char := Char.ofNat (if n < 26 then 0x61 + n else 0x30 + (n - 26))

/-- A text before its last hyphen, and what follows it; without a hyphen, or with one in front only,
all of it follows. -/
def splitLast (s : List Char) : List Char × List Char :=
  let tail := (s.reverse.takeWhile (· ≠ '-')).reverse
  if s.length ≤ tail.length + 1 then ([], s) else (s.take (s.length - tail.length - 1), tail)

/-- What has been decoded: the characters, the place of the next one, its value and the bias; and
of the number that is being read the sum so far, the weight and the place of its next digit. -/
structure Decoding where
  output : List Nat
  place : Nat
  value : Nat
  bias : Nat
  sum : Nat
  weight : Nat
  k : Nat

/-- A number is complete: its character takes its place. -/
def Decoding.emit? (d : Decoding) (total : Nat) : Option Decoding :=
  let count := d.output.length + 1
  let value := d.value + total / count
  let place := total % count
  if 0x10ffff < value ∨ (0xd800 ≤ value ∧ value ≤ 0xdfff) then none
  else
    some { output := d.output.take place ++ value :: d.output.drop place
           place := place + 1
           value := value
           bias := adapt (total - d.place) count (d.place = 0)
           sum := place + 1
           weight := 1
           k := 36 }

/-- One more digit. -/
def Decoding.step? (d : Decoding) (c : Char) : Option Decoding := do
  let n ← digit? c
  let total := d.sum + n * d.weight
  let t := threshold d.k d.bias
  if limit ≤ total then none
  else if n < t then d.emit? total
  else
    let weight := d.weight * (36 - t)
    if limit ≤ weight then none
    else some { d with sum := total, weight := weight, k := d.k + 36 }

/-- The digits of all numbers. -/
def decodeTail? (d : Decoding) : List Char → Option (List Nat)
  | [] => if d.k = 36 then some d.output else none
  | c :: s => (d.step? c).bind fun d => decodeTail? d s

/-- The text that is encoded. -/
def decode? (s : List Char) : Option (List Char) := do
  let (front, tail) := splitLast s
  if front.any (0x80 ≤ ·.toNat) then none
  else
    let out ← decodeTail? ⟨front.map Char.toNat, 0, 0x80, 72, 0, 1, 36⟩ tail
    some (out.map Char.ofNat)

/-- A number in digits of variable weight; as it gets less with every digit, it needs no more tries
than it counts. -/
def number (bias : Nat) : (tries q k : Nat) → List Char
  | 0, q, _ => [digit q]
  | tries + 1, q, k =>
    let t := threshold k bias
    if q < t then [digit q]
    else digit (t + (q - t) % (36 - t)) :: number bias tries ((q - t) / (36 - t)) (k + 36)

/-- What has been encoded while the characters of one value are passed: the distance so far, the
bias, and how many characters are written. -/
structure Encoding where
  delta : Nat
  bias : Nat
  written : Nat
  output : List Char

/-- One character is passed while those of a value are written; `basic` counts the ASCII ones. -/
def Encoding.pass (basic value : Nat) (e : Encoding) (n : Nat) : Encoding :=
  if n < value then { e with delta := e.delta + 1 }
  else if n = value then
    { delta := 0
      bias := adapt e.delta (e.written + 1) (e.written = basic)
      written := e.written + 1
      output := e.output ++ number e.bias e.delta e.delta 36 }
  else e

/-- The values of a text beyond ASCII, each once, the least first. -/
def values (s : List Nat) : List Nat :=
  ((s.filter (0x80 ≤ ·)).mergeSort (· ≤ ·)).eraseDups

/-- The numbers of all values, given the value before the next one. -/
def encodeTail (s : List Nat) (basic : Nat) (e : Encoding) (before : Nat) :
    List Nat → List Char
  | [] => e.output
  | value :: more =>
    let start := { e with delta := e.delta + (value - before) * (e.written + 1) }
    let passed := s.foldl (Encoding.pass basic value) start
    encodeTail s basic { passed with delta := passed.delta + 1 } (value + 1) more

/-- The encoded form of a text. -/
def encode? (s : List Char) : Option (List Char) :=
  let ns := s.map Char.toNat
  let basic := s.filter (·.toNat < 0x80)
  let front := if basic.isEmpty then [] else basic ++ ['-']
  some (front ++ encodeTail ns basic.length ⟨0, 72, basic.length, []⟩ 0x80 (values ns))

end ShaderSketch.Idna.Punycode
