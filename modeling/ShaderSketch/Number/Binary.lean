/-!
# Binary floating point

Floating-point numbers as exact values `±m · 2^e`, and the rounding of a quotient to the nearest
number of a format. All arithmetic is on natural numbers and integers.

## Main definitions

* `Binary.Format` : how many bits a significand has and where the exponents end
* `Binary` : a number of some format, an infinity, or not a number
* `Binary.roundQuotient` : the number nearest to a quotient, ties to the even significand
* `Binary.ofDecimal` : the number nearest to `±d · 10^k`
* `Binary.mul`, `Binary.div` : products and quotients, rounded once
* `Binary.bits32` : the word that stores a single-precision number

## Design notes

A finite number keeps its significand and exponent as they come out of rounding, with the
significand filling the format's precision or the exponent at its least value, so that equal
numbers of one format have equal fields.
-/

namespace ShaderSketch

/-- How many bits a significand has, the least exponent of the last bit, and the power of two that
every finite number stays below. -/
structure Binary.Format where
  precision : Nat
  leastExponent : Int
  bound : Nat
  deriving Repr, DecidableEq

/-- A floating-point number. -/
inductive Binary
  | finite (negative : Bool) (significand : Nat) (exponent : Int)
  | infinite (negative : Bool)
  | notANumber
  deriving Repr, DecidableEq, Inhabited

namespace Binary

/-- Single precision: 24 bits. -/
def Format.single : Format := ⟨24, -149, 128⟩

/-- Double precision: 53 bits. -/
def Format.double : Format := ⟨53, -1074, 1024⟩

/-- A quotient rounded to the nearest natural number, ties to the even one. -/
def roundHalfEven (num den : Nat) : Nat :=
  let q := num / den
  let r := num % den
  if 2 * r < den then q
  else if den < 2 * r then q + 1
  else if q % 2 = 0 then q else q + 1

/-- The fraction `num / den` divided by `2^e`. -/
def scaleDown (num den : Nat) (e : Int) : Nat × Nat :=
  if 0 ≤ e then (num, den * Nat.pow 2 e.toNat) else (num * Nat.pow 2 (-e).toNat, den)

/-- The number of a format that is nearest to `±num / den`, ties to the even significand. -/
def roundQuotient (f : Format) (negative : Bool) (num den : Nat) : Binary :=
  if num = 0 || den = 0 then .finite negative 0 f.leastExponent
  else
    let guess : Int := (Nat.log2 num : Int) - (Nat.log2 den : Int) - (f.precision : Int)
    let e₀ := max f.leastExponent guess
    let s₀ := scaleDown num den e₀
    let e := if Nat.pow 2 f.precision ≤ s₀.1 / s₀.2 then e₀ + 1 else e₀
    let s := scaleDown num den e
    let m := roundHalfEven s.1 s.2
    let (m, e) :=
      if m = Nat.pow 2 f.precision then (Nat.pow 2 (f.precision - 1), e + 1) else (m, e)
    if (f.bound : Int) < e + (f.precision : Int) then .infinite negative
    else .finite negative m e

/-- The number of a format that is nearest to `±m · 2^e`. -/
def roundBinary (f : Format) (negative : Bool) (m : Nat) (e : Int) : Binary :=
  if 0 ≤ e then roundQuotient f negative (m * Nat.pow 2 e.toNat) 1
  else roundQuotient f negative m (Nat.pow 2 (-e).toNat)

/-- The number of a format that is nearest to `±d · 10^k`. Past the exponents where every such
number overflows or vanishes the power is not built. -/
def ofDecimal (f : Format) (negative : Bool) (d : Nat) (k : Int) : Binary :=
  let digits : Int := ((Nat.log2 d : Int) / 3 + 1)
  if d = 0 then .finite negative 0 f.leastExponent
  else if 400 < k then .infinite negative
  else if k + digits < -400 then .finite negative 0 f.leastExponent
  else if 0 ≤ k then roundQuotient f negative (d * Nat.pow 10 k.toNat) 1
  else roundQuotient f negative d (Nat.pow 10 (-k).toNat)

/-- The number of a format that is nearest to a natural number. -/
def ofNat (f : Format) (n : Nat) : Binary := roundQuotient f false n 1

/-- The nearest number of another format. -/
def toFormat (f : Format) : Binary → Binary
  | .finite s m e => roundBinary f s m e
  | b => b

/-- The sign turned around. -/
def neg : Binary → Binary
  | .finite s m e => .finite (!s) m e
  | .infinite s => .infinite (!s)
  | .notANumber => .notANumber

/-- Whether a number is a zero. -/
def isZero : Binary → Bool
  | .finite _ m _ => m = 0
  | _ => false

/-- Whether a number is an infinity. -/
def isInfinite : Binary → Bool
  | .infinite _ => true
  | _ => false

/-- The product, rounded once. -/
def mul (f : Format) : Binary → Binary → Binary
  | .finite s m e, .finite t n g => roundBinary f (s != t) (m * n) (e + g)
  | .finite s m _, .infinite t => if m = 0 then .notANumber else .infinite (s != t)
  | .infinite s, .finite t n _ => if n = 0 then .notANumber else .infinite (s != t)
  | .infinite s, .infinite t => .infinite (s != t)
  | _, _ => .notANumber

/-- The quotient, rounded once. -/
def div (f : Format) : Binary → Binary → Binary
  | .finite s m e, .finite t n g =>
    if n = 0 then if m = 0 then .notANumber else .infinite (s != t)
    else if 0 ≤ e - g then roundQuotient f (s != t) (m * Nat.pow 2 (e - g).toNat) n
    else roundQuotient f (s != t) m (n * Nat.pow 2 (g - e).toNat)
  | .finite s _ _, .infinite t => .finite (s != t) 0 f.leastExponent
  | .infinite s, .finite t _ _ => .infinite (s != t)
  | _, _ => .notANumber

/-- A number held between 0 and 1; what is not a number stays so. -/
def clampUnit (f : Format) : Binary → Binary
  | .finite true m e => if m = 0 then .finite true 0 e else .finite false 0 f.leastExponent
  | .finite false m e =>
    if 0 ≤ e then if m = 0 then .finite false 0 e else ofNat f 1
    else if Nat.pow 2 (-e).toNat < m then ofNat f 1 else .finite false m e
  | .infinite true => .finite false 0 f.leastExponent
  | .infinite false => ofNat f 1
  | .notANumber => .notANumber

/-- A number rounded to the nearest natural number, halves upwards, and held below 256; negative
numbers and what is not a number give 0. -/
def toByte : Binary → UInt8
  | .finite false m e =>
    let n :=
      if 0 ≤ e then m * Nat.pow 2 e.toNat
      else (2 * m + Nat.pow 2 (-e).toNat) / Nat.pow 2 ((-e).toNat + 1)
    UInt8.ofNat (min n 255)
  | .infinite false => 255
  | _ => 0

/-- The word that stores a number of single precision. -/
def bits32 : Binary → UInt32
  | .finite s m e =>
    let sign := if s then 0x80000000 else 0
    if m < 0x800000 then UInt32.ofNat (sign + m)
    else UInt32.ofNat (sign + (e + 150).toNat * 0x800000 + (m - 0x800000))
  | .infinite s => if s then 0xff800000 else 0x7f800000
  | .notANumber => 0x7fc00000

/-- The four bytes of a word, the least first. -/
def littleEndian (w : UInt32) : List UInt8 :=
  [w.toUInt8, (w >>> 8).toUInt8, (w >>> 16).toUInt8, (w >>> 24).toUInt8]

end Binary

end ShaderSketch
