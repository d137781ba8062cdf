import ShaderSketch.Toml.Lexical
import ShaderSketch.Toml.Value

/-!
# TOML numbers, booleans, dates and times

## Main definitions

* `Toml.integer`, `Toml.float`, `Toml.boolean`, `Toml.datetime` : the readers
* `Toml.scalar` : any of them
-/

namespace ShaderSketch.Toml

/-- The value of a decimal digit. -/
def digit? (c : Char) : Option Nat :=
  if '0' ≤ c ∧ c ≤ '9' then some (c.toNat - 0x30) else none

/-- The rest of a run of digits of a kind; single underscores may stand between them. -/
def moreDigits (digit : Char → Option Nat) : Reader (List Nat)
  | '_' :: c :: s => do
    let d ← digit c
    let (ds, s) ← moreDigits digit s
    return (d :: ds, s)
  | ['_'] => none
  | c :: s =>
    match digit c with
    | some d => do
      let (ds, s) ← moreDigits digit s
      return (d :: ds, s)
    | none => some ([], c :: s)
  | [] => some ([], [])

/-- A run of digits of a kind. -/
def digits (digit : Char → Option Nat) : Reader (List Nat)
  | c :: s => do
    let d ← digit c
    let (ds, s) ← moreDigits digit s
    return (d :: ds, s)
  | [] => none

/-- The number that digits spell in a base. -/
def numberOf (base : Nat) (ds : List Nat) : Nat := ds.foldl (fun v d => base * v + d) 0

/-- A sign, or none; it answers whether it is a minus. -/
def sign : List Char → Bool × List Char
  | '-' :: s => (true, s)
  | '+' :: s => (false, s)
  | s => (false, s)

/-- A run of decimal digits that starts with a zero only where it is nothing else. -/
def wholeDigits : Reader (List Nat)
  | '0' :: s => some ([0], s)
  | s => digits digit? s

/-- A number, when it fits into 64 bits with a sign. -/
def fitting (n : Int) : Option Value :=
  if -0x8000000000000000 ≤ n ∧ n < 0x8000000000000000 then some (.integer n) else none

/-- The digit of a base in which digits past nine are letters. -/
def digitBelow (base : Nat) (c : Char) : Option Nat := (hexValue? c).filter (· < base)

/-- An integer in a base other than ten, which has no sign. -/
def basedInteger (base : Nat) : Reader Value := fun s => do
  let (ds, s) ← digits (digitBelow base) s
  return (← fitting (numberOf base ds), s)

/-- An integer. -/
def integer : Reader Value
  | '0' :: 'x' :: s => basedInteger 16 s
  | '0' :: 'o' :: s => basedInteger 8 s
  | '0' :: 'b' :: s => basedInteger 2 s
  | s => do
    let (negative, s) := sign s
    let (ds, s) ← wholeDigits s
    let n := numberOf 10 ds
    return (← fitting (if negative then -n else n), s)

/-- The digits behind a point, and none where there is no point. -/
def fraction : Reader (List Nat)
  | '.' :: s => digits digit? s
  | s => some ([], s)

/-- An exponent, and nothing where there is none. -/
def exponent : Reader (Option Int)
  | c :: s =>
    if c = 'e' ∨ c = 'E' then do
      let (negative, s) := sign s
      let (ds, s) ← digits digit? s
      let n : Int := numberOf 10 ds
      return (some (if negative then -n else n), s)
    else some (none, c :: s)
  | [] => some (none, [])

/-- A floating-point number with a point or an exponent. One that is too large is refused, and one
that is too small for a finite number is the negative infinity. -/
def decimalFloat : Reader Value := fun s => do
  let (negative, s) := sign s
  let (whole, s) ← wholeDigits s
  let (places, s') ← fraction s
  let (power, s'') ← exponent s'
  guard (s''.length ≠ s.length)
  let x := Binary.ofDecimal .double negative (numberOf 10 (whole ++ places))
    (power.getD 0 - places.length)
  guard (x ≠ .infinite false)
  return (.float x, s'')

/-- A floating-point number. -/
def float : Reader Value := fun s =>
  let (negative, rest) := sign s
  match rest with
  | 'i' :: 'n' :: 'f' :: s => some (.float (.infinite negative), s)
  | 'n' :: 'a' :: 'n' :: s => some (.float .notANumber, s)
  | _ => decimalFloat s

/-- A boolean. -/
def boolean : Reader Value
  | 't' :: 'r' :: 'u' :: 'e' :: s => some (.boolean true, s)
  | 'f' :: 'a' :: 'l' :: 's' :: 'e' :: s => some (.boolean false, s)
  | _ => none

/-- A number of exactly `n` digits between bounds. -/
def field (n least greatest : Nat) : Reader Nat := fun s => do
  guard (n ≤ s.length)
  let value := numberOf 10 (← (s.take n).mapM digit?)
  guard (least ≤ value ∧ value ≤ greatest)
  return (value, s.drop n)

/-- One character. -/
def token (c : Char) : Reader Unit
  | d :: s => if d = c then some ((), s) else none
  | [] => none

/-- The number of days of a month. -/
def daysIn (year month : Nat) : Nat :=
  let leap := year % 4 = 0 ∧ (year % 100 ≠ 0 ∨ year % 400 = 0)
  if month = 2 then if leap then 29 else 28
  else if [4, 6, 9, 11].contains month then 30
  else 31

/-- A date. -/
def date : Reader Unit := fun s => do
  let (year, s) ← field 4 0 9999 s
  let (_, s) ← token '-' s
  let (month, s) ← field 2 1 12 s
  let (_, s) ← token '-' s
  let (_, s) ← field 2 1 (daysIn year month) s
  return ((), s)

/-- The fraction of a second, where there is a point. -/
def secondFraction : List Char → Option (List Char)
  | '.' :: c :: s => do
    let _ ← digit? c
    return s.dropWhile fun c => (digit? c).isSome
  | ['.'] => none
  | s => some s

/-- A time of day; a leap second is one. -/
def time : Reader Unit := fun s => do
  let (_, s) ← field 2 0 23 s
  let (_, s) ← token ':' s
  let (_, s) ← field 2 0 59 s
  let (_, s) ← token ':' s
  let (_, s) ← field 2 0 60 s
  return ((), ← secondFraction s)

/-- The distance from universal time, where there is one. -/
def offset : List Char → Option (List Char)
  | c :: s =>
    if c = 'Z' ∨ c = 'z' then some s
    else if c = '+' ∨ c = '-' then do
      let (_, s) ← field 2 0 23 s
      let (_, s) ← token ':' s
      let (_, s) ← field 2 0 59 s
      return s
    else some (c :: s)
  | [] => some []

/-- A date, a time, or both. -/
def datetime : Reader Value := fun s =>
  match date s with
  | some (_, rest) =>
    match rest with
    | c :: s =>
      if c = 'T' ∨ c = 't' ∨ c = ' ' then
        match time s with
        | some (_, s) => (offset s).map fun s => (.datetime, s)
        | none => some (.datetime, c :: s)
      else some (.datetime, c :: s)
    | [] => some (.datetime, [])
  | none => (time s).map fun (_, s) => (.datetime, s)

/-- A date or time, a number, or a boolean. -/
def scalar : Reader Value := fun s =>
  datetime s <|> float s <|> integer s <|> boolean s

end ShaderSketch.Toml
