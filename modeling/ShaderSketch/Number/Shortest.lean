import ShaderSketch.Number.Binary

/-!
# Shortest decimal text

The decimal text of a floating-point number: the fewest digits that read back as the number, and
of those the nearest to it, written in one of several styles.

## Main definitions

* `Shortest.digits` : the digits and the power of ten of a finite number
* `Shortest.Style` : where positional notation ends and whether a whole number keeps `.0`
* `Shortest.render` : the text of a number in a style

## Design notes

For one digit, two digits and so on, the two neighbours of the number on that decimal grid are
tested against the interval of reals that round to the number; the first grid with a hit wins, and
of two hits the nearer. The interval includes its ends when the significand is even.
-/

namespace ShaderSketch.Shortest

/-- The exponent of the largest power of ten that is not above a natural number. -/
def log10 (n : Nat) : Nat := (Nat.toDigits 10 n).length - 1

/-- The exponent of the largest power of ten that is not above `num / den`. -/
def decimalExponent (num den : Nat) : Int :=
  if den ≤ num then (log10 (num / den) : Int)
  else
    let j := log10 (den / num)
    if den ≤ num * Nat.pow 10 j then -(j : Int) else -(j : Int) - 1

/-- The interval of reals that round to `m · 2^e`, with the number itself, as numerators over one
denominator, and whether the ends belong to it. -/
structure Interval where
  lower : Nat
  value : Nat
  upper : Nat
  denominator : Nat
  closed : Bool

/-- The interval of a positive number of a format. -/
def Interval.of (f : Binary.Format) (m : Nat) (e : Int) : Interval :=
  let narrow := m = Nat.pow 2 (f.precision - 1) ∧ f.leastExponent < e
  let q := e - 2
  let scale := if 0 ≤ q then Nat.pow 2 q.toNat else 1
  { lower := (4 * m - if narrow then 1 else 2) * scale
    value := 4 * m * scale
    upper := (4 * m + 2) * scale
    denominator := if 0 ≤ q then 1 else Nat.pow 2 (-q).toNat
    closed := m % 2 = 0 }

/-- Whether `d · 10^k` lies in an interval. -/
def Interval.contains (i : Interval) (d : Nat) (k : Int) : Bool :=
  let x := (if 0 ≤ k then d * Nat.pow 10 k.toNat else d) * i.denominator
  let unit := if 0 ≤ k then 1 else Nat.pow 10 (-k).toNat
  if i.closed then i.lower * unit ≤ x && x ≤ i.upper * unit
  else i.lower * unit < x && x < i.upper * unit

/-- The neighbour of the number on the grid of `10^k` that lies in its interval, the nearer one
when both do. -/
def Interval.onGrid (i : Interval) (k : Int) : Option Nat :=
  let num := if 0 ≤ k then i.value else i.value * Nat.pow 10 (-k).toNat
  let den := if 0 ≤ k then i.denominator * Nat.pow 10 k.toNat else i.denominator
  let below := num / den
  match i.contains below k, i.contains (below + 1) k with
  | true, true => some (Binary.roundHalfEven num den)
  | true, false => some below
  | false, true => some (below + 1)
  | false, false => none

/-- The first grid, from `n` digits on, that has a neighbour in the interval. -/
def Interval.search (i : Interval) (top : Int) : (tries n : Nat) → Nat × Int
  | 0, n => ((i.onGrid (top - n)).getD 0, top - n)
  | tries + 1, n =>
    match i.onGrid (top - n) with
    | some d => (d, top - n)
    | none => i.search top tries (n + 1)

/-- Digits without their trailing zeros, and the power of ten that makes up for them. -/
def stripZeros : (tries : Nat) → Nat × Int → Nat × Int
  | 0, d => d
  | tries + 1, (d, k) =>
    if d ≠ 0 ∧ d % 10 = 0 then stripZeros tries (d / 10, k + 1) else (d, k)

/-- The fewest digits `d` and the power `k` such that `d · 10^k` reads back as `m · 2^e`. -/
def digits (f : Binary.Format) (m : Nat) (e : Int) : Nat × Int :=
  if m = 0 then (0, 0)
  else
    let i := Interval.of f m e
    stripZeros 20 (i.search (decimalExponent i.value i.denominator) 17 0)

/-- How a number is written: with `whole`, a whole number keeps `.0`; a number outside the powers
of ten from `least` to `greatest` is written with an exponent. -/
structure Style where
  whole : Bool
  exponents : Option (Int × Int)

/-- Positional notation throughout; whole numbers have no point. -/
def plain : Style := ⟨false, none⟩

/-- Positional notation throughout; whole numbers keep `.0`. -/
def pointed : Style := ⟨true, none⟩

/-- Positional notation from `10^-5` up to below `10^16`, an exponent elsewhere; whole numbers keep
`.0`. -/
def compact : Style := ⟨true, some (-5, 16)⟩

private def text (n : Nat) : List Char := Nat.toDigits 10 n

/-- `d · 10^k` without an exponent. -/
def positional (whole : Bool) (d : Nat) (k : Int) : List Char :=
  let ds := text d
  if 0 ≤ k then
    ds ++ List.replicate (if d = 0 then 0 else k.toNat) '0' ++ (if whole then ['.', '0'] else [])
  else
    let places := (-k).toNat
    if places < ds.length then
      ds.take (ds.length - places) ++ '.' :: ds.drop (ds.length - places)
    else '0' :: '.' :: (List.replicate (places - ds.length) '0' ++ ds)

/-- `d · 10^k` with one digit before the point and an exponent that always has a sign. -/
def scientific (d : Nat) (k : Int) : List Char :=
  match text d with
  | [] => []
  | c :: cs =>
    let e : Int := k + cs.length
    let mantissa := if cs.isEmpty then [c] else c :: '.' :: cs
    mantissa ++ 'e' :: (if e < 0 then '-' :: text (-e).toNat else '+' :: text e.toNat)

/-- The text of a positive number in a style. -/
def renderDigits (s : Style) (d : Nat) (k : Int) : List Char :=
  match s.exponents with
  | none => positional s.whole d k
  | some (least, greatest) =>
    let point : Int := k + (text d).length
    if d = 0 || (least < point && point ≤ greatest) then positional s.whole d k
    else scientific d k

/-- The text of a double-precision number. -/
def render (s : Style) : Binary → String
  | .finite negative m e =>
    let (d, k) := digits .double m e
    String.ofList ((if negative then ['-'] else []) ++ renderDigits s d k)
  | .infinite negative => if negative then "-inf" else "inf"
  | .notANumber => "NaN"

/-- The text of a single-precision number: that of the same number in double precision. -/
def renderSingle (b : Binary) : String := render plain (b.toFormat .double)

end ShaderSketch.Shortest
