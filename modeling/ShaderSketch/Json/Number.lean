import ShaderSketch.Json.Reader
import ShaderSketch.Number.Shortest

/-!
# JSON numbers

Numbers are never wanted by a document of this program, but the message that refuses one names its
value, so they are read.

## Main definitions

* `Json.Number` : a whole number or a floating-point number
* `Json.number` : a number, read after its sign
* `Json.skipNumber` : the rest after a number whose value is not needed
* `Json.Number.describe` : a number as a message names it

## Design notes

Digits are gathered into a significand of 64 bits; those that no longer fit only move the decimal
point. The value of a number with a fraction, an exponent or too many digits is the significand
times or divided by the nearest double to a power of ten, each step rounded on its own. So the last
digit can differ from that of the correctly rounded value, and that is the value shown.
-/

namespace ShaderSketch.Json

/-- A number of a document. -/
inductive Number
  | whole (n : Int)
  | float (b : Binary)
  deriving Repr, DecidableEq

/-- A number as a message names it. -/
def Number.describe : Number → String
  | .whole n => "integer `" ++ toString n ++ "`"
  | .float b => "floating point `" ++ Shortest.render Shortest.compact b ++ "`"

/-- The digits in front of a text. -/
def isDigit (c : Char) : Bool := '0' ≤ c && c ≤ '9'

/-- The value of a decimal digit. -/
def digitValue (c : Char) : Nat := c.toNat - '0'.toNat

/-- The largest significand. -/
def largestSignificand : Nat := 0xffffffffffffffff

/-- Digits gathered as long as they fit, and how many were gathered. -/
def gather (significand count : Nat) : List Char → Nat × Nat
  | [] => (significand, count)
  | c :: cs =>
    let more := significand * 10 + digitValue c
    if largestSignificand < more then (significand, count) else gather more (count + 1) cs

/-- The nearest double to a power of ten. -/
def powerOfTen (n : Nat) : Binary := Binary.ofDecimal .double false 1 n

/-- A quotient by `10^308` repeated until the exponent is small or the number vanishes. -/
def shrink : (tries : Nat) → Binary → (exponent : Nat) → Binary
  | 0, b, _ => b
  | tries + 1, b, exponent =>
    if b.isZero then b
    else if exponent ≤ 308 then Binary.div .double b (powerOfTen exponent)
    else shrink tries (Binary.div .double b (powerOfTen 308)) (exponent - 308)

/-- The value of a significand and an exponent, or nothing when it is too large. -/
def scale? (significand : Nat) (exponent : Int) : Option Binary :=
  let b := Binary.ofNat .double significand
  if 0 ≤ exponent then
    if exponent ≤ 308 then
      let v := Binary.mul .double b (powerOfTen exponent.toNat)
      if v.isInfinite then none else some v
    else if b.isZero then some b else none
  else some (shrink 5 b (-exponent).toNat)

private def signed (negative : Bool) (b : Binary) : Number :=
  .float (if negative then b.neg else b)

/-- The number with a significand and an exponent, in front of a rest. -/
def floatNumber (negative : Bool) (significand : Nat) (exponent : Int) (rest : List Char) :
    Except Fault Number :=
  match scale? significand exponent with
  | some b => .ok (signed negative b)
  | none => .error (.here .numberOutOfRange rest)

/-- The largest exponent that is added up. -/
def largestExponent : Int := 0x7fffffff

/-- An exponent read digit by digit: its value, or the digits that follow the one where it grew
too large. -/
def exponentValue (value : Int) : List Char → Int ⊕ List Char
  | [] => .inl value
  | c :: cs =>
    let more := value * 10 + digitValue c
    if largestExponent < more then .inr cs else exponentValue more cs

/-- An exponent held within the range of its word. -/
def clampExponent (e : Int) : Int := max (-largestExponent - 1) (min largestExponent e)

/-- The digits in front of a text, and what follows them. -/
def digitRun (s : List Char) : List Char × List Char := (s.takeWhile isDigit, s.dropWhile isDigit)

theorem length_digitRun_le (s : List Char) : (digitRun s).2.length ≤ s.length :=
  (List.dropWhile_suffix isDigit).length_le

/-- The text after the sign of an exponent, and whether the sign is a minus. -/
def exponentSign : List Char → Bool × List Char
  | '+' :: s => (false, s)
  | '-' :: s => (true, s)
  | s => (false, s)

theorem length_exponentSign_le (s : List Char) : (exponentSign s).2.length ≤ s.length := by
  unfold exponentSign
  split <;> simp

/-- What follows the letter of an exponent. -/
def exponentTail (negative : Bool) (significand : Nat) (start : Int) (s : List Char) :
    Except Fault (Number × { r : List Char // r.length ≤ s.length }) :=
  let sign := exponentSign s
  match h : sign.2 with
  | [] => .error (.here .endOfValue [])
  | c :: r =>
    if isDigit c then
      let run := digitRun r
      have hr : run.2.length ≤ s.length := by
        have h₁ := length_digitRun_le r
        have h₂ := length_exponentSign_le s
        have h₃ : sign.2.length = r.length + 1 := by rw [h]; rfl
        have h₄ : sign.2.length ≤ s.length := h₂
        have h₅ : run.2.length ≤ r.length := h₁
        omega
      match exponentValue (digitValue c) run.1 with
      | .inl e =>
        let total := clampExponent (if sign.1 then start - e else start + e)
        match floatNumber negative significand total run.2 with
        | .ok n => .ok (n, ⟨run.2, hr⟩)
        | .error f => .error f
      | .inr cs =>
        if significand ≠ 0 ∧ !sign.1 then .error (.here .numberOutOfRange (cs ++ run.2))
        else .ok (signed negative (.finite false 0 Binary.Format.double.leastExponent), ⟨run.2, hr⟩)
    else .error (.next .invalidNumber (c :: r))

/-- A number whose significand is read, with a possible exponent next. -/
def afterFraction (negative : Bool) (significand : Nat) (exponent : Int) (s : List Char) :
    Except Fault (Number × { r : List Char // r.length ≤ s.length }) :=
  match s with
  | c :: r =>
    if c = 'e' ∨ c = 'E' then
      match exponentTail negative significand exponent r with
      | .ok (n, ⟨t, h⟩) => .ok (n, ⟨t, length_le_cons c h⟩)
      | .error f => .error f
    else
      match floatNumber negative significand exponent (c :: r) with
      | .ok n => .ok (n, unread (c :: r))
      | .error f => .error f
  | [] =>
    match floatNumber negative significand exponent [] with
    | .ok n => .ok (n, unread [])
    | .error f => .error f

/-- What follows the point of a number. -/
def fractionTail (negative : Bool) (significand : Nat) (exponent : Int) (s : List Char) :
    Except Fault (Number × { r : List Char // r.length ≤ s.length }) :=
  let run := digitRun s
  have hr : run.2.length ≤ s.length := length_digitRun_le s
  if run.1.isEmpty then
    .error (.next (if s.isEmpty then .endOfValue else .invalidNumber) s)
  else
    let (m, taken) := gather significand 0 run.1
    match afterFraction negative m (exponent - taken) run.2 with
    | .ok (n, ⟨t, h⟩) => .ok (n, ⟨t, Nat.le_trans h hr⟩)
    | .error f => .error f

/-- A number whose whole part is read: `dropped` of its digits did not fit. -/
def afterWhole (negative : Bool) (significand dropped : Nat) (s : List Char) :
    Except Fault (Number × { r : List Char // r.length ≤ s.length }) :=
  match s with
  | '.' :: r =>
    match fractionTail negative significand dropped r with
    | .ok (n, ⟨t, h⟩) => .ok (n, ⟨t, by simp; omega⟩)
    | .error f => .error f
  | s =>
    let plain : Option Number :=
      if dropped ≠ 0 ∨ s.head? = some 'e' ∨ s.head? = some 'E' then none
      else if !negative then some (.whole significand)
      else if significand = 0 ∨ 0x8000000000000000 < significand then
        some (signed true (Binary.ofNat .double significand))
      else some (.whole (-(significand : Int)))
    match plain with
    | some n => .ok (n, unread s)
    | none => afterFraction negative significand dropped s

/-- A number, read after its sign. -/
def number (negative : Bool) (s : List Char) : Except Fault (Number × Rest s) :=
  match s with
  | [] => .error (.here .endOfValue [])
  | '0' :: r =>
    match r.head? with
    | some d =>
      if isDigit d then .error (.next .invalidNumber r)
      else
        match afterWhole negative 0 0 r with
        | .ok (n, ⟨t, h⟩) => .ok (n, ⟨t, by simp; omega⟩)
        | .error f => .error f
    | none =>
      match afterWhole negative 0 0 r with
      | .ok (n, ⟨t, h⟩) => .ok (n, ⟨t, by simp; omega⟩)
      | .error f => .error f
  | c :: r =>
    if isDigit c then
      let run := digitRun r
      have hr : run.2.length ≤ r.length := length_digitRun_le r
      let (m, taken) := gather (digitValue c) 0 run.1
      match afterWhole negative m (run.1.length - taken) run.2 with
      | .ok (n, ⟨t, h⟩) => .ok (n, ⟨t, by simp; omega⟩)
      | .error f => .error f
    else .error (.next .invalidNumber (c :: r))

/-- The rest after the exponent of a number whose value is not needed. -/
def skipExponent (s : List Char) : Except Fault { r : List Char // r.length ≤ s.length } :=
  let sign := exponentSign s
  match h : sign.2 with
  | [] => .error (.here .invalidNumber [])
  | c :: r =>
    if isDigit c then
      .ok ⟨(digitRun r).2, by
        have h₁ := length_digitRun_le r
        have h₂ : sign.2.length ≤ s.length := length_exponentSign_le s
        have h₃ : sign.2.length = r.length + 1 := by rw [h]; rfl
        omega⟩
    else .error (.next .invalidNumber (c :: r))

/-- The rest after a possible exponent. -/
def skipAfterFraction (s : List Char) : Except Fault { r : List Char // r.length ≤ s.length } :=
  match s with
  | c :: r =>
    if c = 'e' ∨ c = 'E' then
      match skipExponent r with
      | .ok ⟨t, h⟩ => .ok ⟨t, length_le_cons c h⟩
      | .error f => .error f
    else .ok (unread (c :: r))
  | [] => .ok (unread [])

/-- The rest after a possible fraction and a possible exponent. -/
def skipAfterWhole (s : List Char) : Except Fault { r : List Char // r.length ≤ s.length } :=
  match s with
  | '.' :: r =>
    let run := digitRun r
    have hr : run.2.length ≤ r.length := length_digitRun_le r
    if run.1.isEmpty then .error (.next .invalidNumber r)
    else
      match skipAfterFraction run.2 with
      | .ok ⟨t, h⟩ => .ok ⟨t, by simp; omega⟩
      | .error f => .error f
  | s => skipAfterFraction s

/-- The rest after a number whose value is not needed, read after its sign. -/
def skipNumber (s : List Char) : Except Fault (Rest s) :=
  match s with
  | [] => .error (.here .invalidNumber [])
  | '0' :: r =>
    if (r.head?.map isDigit).getD false then .error (.next .invalidNumber r)
    else
      match skipAfterWhole r with
      | .ok ⟨t, h⟩ => .ok ⟨t, by simp; omega⟩
      | .error f => .error f
  | c :: r =>
    if isDigit c then
      let run := digitRun r
      have hr : run.2.length ≤ r.length := length_digitRun_le r
      match skipAfterWhole run.2 with
      | .ok ⟨t, h⟩ => .ok ⟨t, by simp; omega⟩
      | .error f => .error f
    else .error (.next .invalidNumber (c :: r))

end ShaderSketch.Json
