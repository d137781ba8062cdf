import ShaderSketch.Text.Search

/-!
# Character ranges

Sets of characters, written as ranges of hexadecimal code points.

## Main definitions

* `CharRanges` : the ranges of a set
* `CharRanges.ofText` : the set that a text of the form `41-5a 5f` lists
* `CharRanges.contains` : membership

## Design notes

The tables of the Unicode properties are long; kept as one text each they stay readable against the
published lists and cost nothing until they are used.
-/

namespace ShaderSketch

/-- The ranges of a set of characters, ends included. -/
structure CharRanges where
  ranges : List (Nat × Nat)

namespace CharRanges

/-- The value of a hexadecimal digit in lower case. -/
def hexDigit (c : Char) : Nat :=
  if c.toNat < 0x3a then c.toNat - 0x30 else c.toNat - 0x61 + 10

/-- The range of a word, given the numbers of it that were read. -/
def readRange (start : Option Nat) (current : Nat) : List Char → Nat × Nat
  | [] => (start.getD current, current)
  | '-' :: s => readRange (some current) 0 s
  | c :: s => readRange start (current * 16 + hexDigit c) s

/-- The set that a text lists. -/
def ofText (s : String) : CharRanges := ⟨(Text.words s.toList).map (readRange none 0)⟩

/-- Whether a code point lies in one of the ranges. -/
def contains (t : CharRanges) (n : Nat) : Bool := t.ranges.any fun (a, b) => a ≤ n && n ≤ b

end CharRanges

end ShaderSketch
