import ShaderSketch.Json.Fault

/-!
# Reading JSON text

The lexical part of JSON: blanks, words, strings and their escapes.

## Main definitions

* `Json.Rest` : what a reader leaves, shorter than what it was given
* `Json.Reader` : a reader of values
* `Json.skipBlank` : the text after leading blanks
* `Json.word` : the fixed letters of `null`, `true` and `false`
* `Json.stringTail` : the content of a string after its opening quote
* `Json.skipString` : the same without forming the content

## Design notes

Every reader takes at least one character and says so in its type, so that loops over elements and
members end by the length of the text. Skipped strings are checked for the form of their escapes
only; a lone surrogate is refused where the content is needed.
-/

namespace ShaderSketch.Json

/-- A rest that is shorter than a text. -/
abbrev Rest (s : List Char) := { r : List Char // r.length < s.length }

/-- A reader of values: it refuses the text or takes a value from its front. -/
abbrev Reader (α : Type) := (s : List Char) → Except Fault (α × Rest s)

/-- The blanks of JSON. -/
def isBlank (c : Char) : Bool := c = ' ' || c = '\n' || c = '\t' || c = '\r'

/-- The text after its leading blanks. -/
def skipBlank (s : List Char) : List Char := s.dropWhile isBlank

theorem length_skipBlank_le (s : List Char) : (skipBlank s).length ≤ s.length :=
  (List.dropWhile_suffix isBlank).length_le

theorem length_lt_of_skipBlank {s r : List Char} {c : Char} (h : skipBlank s = c :: r) :
    r.length < s.length := by
  have hb := length_skipBlank_le s
  rw [h] at hb
  exact hb

theorem length_lt_cons_self (c : Char) (s : List Char) : s.length < (c :: s).length :=
  Nat.lt_succ_self _

theorem length_le_cons {s r : List Char} (c : Char) (h : r.length ≤ s.length) :
    r.length ≤ (c :: s).length :=
  Nat.le_succ_of_le h

theorem length_lt_cons {s r : List Char} (c : Char) (h : r.length < s.length) :
    r.length < (c :: s).length :=
  Nat.lt_succ_of_lt h

/-- A text itself, as what is left of it. -/
def unread (s : List Char) : { r : List Char // r.length ≤ s.length } := ⟨s, Nat.le_refl _⟩

/-- The remaining letters of a fixed word. -/
def word : (letters s : List Char) → Except Fault { r : List Char // r.length ≤ s.length }
  | [], s => .ok (unread s)
  | _ :: _, [] => .error (.here .endOfValue [])
  | e :: es, c :: s =>
    if c = e then
      match word es s with
      | .ok ⟨r, h⟩ => .ok ⟨r, length_le_cons c h⟩
      | .error f => .error f
    else .error (.next .expectedWord (c :: s))

/-- The value of a hexadecimal digit. -/
def hexDigit? (c : Char) : Option Nat :=
  if '0' ≤ c ∧ c ≤ '9' then some (c.toNat - '0'.toNat)
  else if 'a' ≤ c ∧ c ≤ 'f' then some (c.toNat - 'a'.toNat + 10)
  else if 'A' ≤ c ∧ c ≤ 'F' then some (c.toNat - 'A'.toNat + 10)
  else none

/-- The value of four hexadecimal digits. -/
def hexValue? (a b c d : Char) : Option Nat := do
  return (((← hexDigit? a) * 16 + (← hexDigit? b)) * 16 + (← hexDigit? c)) * 16 + (← hexDigit? d)

/-- The unit that four hexadecimal digits name. Four bytes are taken whether or not they are
digits. -/
def hexUnit (s : List Char) : Except Fault (Nat × Rest s) :=
  if Utf8.size s < 4 then .error ⟨.endOfString, 0⟩
  else
    match s with
    | a :: b :: c :: d :: r =>
      match hexValue? a b c d with
      | some n => .ok (n, ⟨r, by simp; omega⟩)
      | none => .error ⟨.invalidEscape, Utf8.size (a :: b :: c :: d :: r) - 4⟩
    | s => .error ⟨.invalidEscape, Utf8.size s - 4⟩

/-- Whether a unit is the first of a surrogate pair. -/
def isLeadUnit (n : Nat) : Bool := 0xd800 ≤ n && n ≤ 0xdbff

/-- Whether a unit is the second of a surrogate pair. -/
def isTrailUnit (n : Nat) : Bool := 0xdc00 ≤ n && n ≤ 0xdfff

/-- The character of a surrogate pair. -/
def ofUnits (lead trail : Nat) : Char :=
  Char.ofNat ((lead - 0xd800) * 0x400 + (trail - 0xdc00) + 0x10000)

/-- The character that the units after `\u` name. -/
def unitEscape (s : List Char) : Except Fault (Char × Rest s) :=
  match hexUnit s with
  | .error f => .error f
  | .ok (n, ⟨r, h⟩) =>
    if isTrailUnit n then .error (.here .loneSurrogate r)
    else if isLeadUnit n then
      match r with
      | '\\' :: 'u' :: r₂ =>
        match hexUnit r₂ with
        | .error f => .error f
        | .ok (n₂, ⟨r₃, h₃⟩) =>
          if isTrailUnit n₂ then .ok (ofUnits n n₂, ⟨r₃, by simp at h; omega⟩)
          else .error (.here .loneSurrogate r₃)
      | ['\\'] => .error (.here .endOfString [])
      | '\\' :: r₂ => .error (.next .brokenEscape r₂)
      | [] => .error (.here .endOfString [])
      | r₂ => .error (.next .brokenEscape r₂)
    else .ok (Char.ofNat n, ⟨r, h⟩)

/-- The character that a letter after a backslash stands for. -/
def shortEscape? : Char → Option Char
  | '"' => some '"'
  | '\\' => some '\\'
  | '/' => some '/'
  | 'b' => some '\x08'
  | 'f' => some '\x0c'
  | 'n' => some '\n'
  | 'r' => some '\r'
  | 't' => some '\t'
  | _ => none

/-- The character that an escape stands for, read after its backslash. -/
def escape (s : List Char) : Except Fault (Char × Rest s) :=
  match s with
  | [] => .error (.here .endOfString [])
  | 'u' :: r =>
    match unitEscape r with
    | .ok (c, ⟨r₂, h⟩) => .ok (c, ⟨r₂, by simp; omega⟩)
    | .error f => .error f
  | c :: r =>
    match shortEscape? c with
    | some d => .ok (d, ⟨r, by simp⟩)
    | none => .error (.next .invalidEscape (c :: r))

/-- The content of a string, read after its opening quote. -/
def stringTail (s : List Char) : Except Fault (List Char × Rest s) :=
  match s with
  | [] => .error (.here .endOfString [])
  | '"' :: r => .ok ([], ⟨r, by simp⟩)
  | '\\' :: r =>
    match escape r with
    | .error f => .error f
    | .ok (c, ⟨r₂, h⟩) =>
      match stringTail r₂ with
      | .ok (cs, ⟨r₃, h₃⟩) => .ok (c :: cs, ⟨r₃, by simp; omega⟩)
      | .error f => .error f
  | c :: r =>
    if c.toNat < 0x20 then .error (.here .controlCharacter r)
    else
      match stringTail r with
      | .ok (cs, ⟨r₂, h⟩) => .ok (c :: cs, ⟨r₂, length_lt_cons c h⟩)
      | .error f => .error f
termination_by s.length
decreasing_by all_goals (simp; try omega)

/-- The rest after an escape whose content is not needed, read after its backslash. -/
def skipEscape (s : List Char) : Except Fault (Rest s) :=
  match s with
  | [] => .error (.here .endOfString [])
  | 'u' :: r =>
    match hexUnit r with
    | .ok (_, ⟨r₂, h⟩) => .ok ⟨r₂, by simp; omega⟩
    | .error f => .error f
  | c :: r =>
    match shortEscape? c with
    | some _ => .ok ⟨r, by simp⟩
    | none => .error (.next .invalidEscape (c :: r))

/-- The rest after a string whose content is not needed, read after its opening quote. -/
def skipString (s : List Char) : Except Fault (Rest s) :=
  match s with
  | [] => .error (.here .endOfString [])
  | '"' :: r => .ok ⟨r, by simp⟩
  | '\\' :: r =>
    match skipEscape r with
    | .error f => .error f
    | .ok ⟨r₂, h⟩ =>
      match skipString r₂ with
      | .ok ⟨r₃, h₃⟩ => .ok ⟨r₃, by simp; omega⟩
      | .error f => .error f
  | c :: r =>
    if c.toNat < 0x20 then .error (.here .controlCharacter (c :: r))
    else
      match skipString r with
      | .ok ⟨r₂, h⟩ => .ok ⟨r₂, length_lt_cons c h⟩
      | .error f => .error f
termination_by s.length
decreasing_by all_goals (simp; try omega)

end ShaderSketch.Json
