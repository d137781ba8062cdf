import ShaderSketch.Json.Fault

/-!
# The grammar of JSON

What a JSON text is, without a reader.  Each notion relates a value to two texts, the second of
which is what is left of the first behind a spelling of the value.

## Main definitions

* `Json.Value` — the values, as far as a document of this program tells them apart
* `Json.Pieces`, `Json.content?` — the inside of a string, and the characters that it stands for
* `Json.Numeral` — numbers
* `Json.Spells` — the spellings of a value
* `Json.Document` — the texts that hold one value and nothing else but blanks

## Design notes

An escape names a unit of sixteen bits, and two units may make a character together.  A unit that is
half of such a pair and stands alone is well-formed, but a string with it has no content.
-/

namespace ShaderSketch.Json

/-- A JSON value.  The content of a string is missing when a half of a surrogate pair stands alone
in it.  Numbers have no content, since nothing reads one; only their spelling counts. -/
inductive Value
  | null
  | boolean (b : Bool)
  | number
  | string (content : Option (List Char))
  | list (elements : List Value)
  | object (members : List (Option (List Char) × Value))

/-- A relation between a thing, a text that starts with a spelling of it, and the rest of that. -/
abbrev Phrase (α : Type) := α → List Char → List Char → Prop

/-! ## Blanks -/

/-- Any number of blanks. -/
def Blanks (s r : List Char) : Prop := ∃ w, (∀ c ∈ w, c ∈ [' ', '\t', '\n', '\r']) ∧ s = w ++ r

theorem blanks_refl (s : List Char) : Blanks s s := ⟨[], by simp, rfl⟩

/-! ## Strings -/

/-- A character that stands for itself or is named by one letter, or a unit of sixteen bits. -/
inductive Piece
  | char (c : Char)
  | unit (n : Nat)

/-- The letters that name a character behind a backslash. -/
def Short (letter c : Char) : Prop :=
  (letter, c) ∈ [('"', '"'), ('\\', '\\'), ('/', '/'), ('b', '\x08'), ('f', '\x0c'), ('n', '\n'),
    ('r', '\r'), ('t', '\t')]

instance (letter c : Char) : Decidable (Short letter c) := inferInstanceAs (Decidable (_ ∈ _))

/-- The hexadecimal digits of either case. -/
def Hex (c : Char) (n : Nat) : Prop :=
  "0123456789abcdef".toList[n]? = some c ∨ "0123456789ABCDEF".toList[n]? = some c

/-- Four hexadecimal digits. -/
inductive Quad : Phrase Nat
  | mk {a b c d : Char} {i j k l : Nat} {r : List Char} (first : Hex a i) (second : Hex b j)
      (third : Hex c k) (fourth : Hex d l) :
      Quad (((i * 16 + j) * 16 + k) * 16 + l) (a :: b :: c :: d :: r) r

/-- The inside of a string. -/
inductive Pieces : Phrase (List Piece)
  | nil (r : List Char) : Pieces [] r r
  | plain {c : Char} {ps : List Piece} {s r : List Char} (visible : 0x20 ≤ c.toNat)
      (unquoted : c ≠ '"') (unescaped : c ≠ '\\') (rest : Pieces ps s r) :
      Pieces (.char c :: ps) (c :: s) r
  | short {letter c : Char} {ps : List Piece} {s r : List Char} (escape : Short letter c)
      (rest : Pieces ps s r) : Pieces (.char c :: ps) ('\\' :: letter :: s) r
  | unit {n : Nat} {ps : List Piece} {s s' r : List Char} (escape : Quad n s s')
      (rest : Pieces ps s' r) : Pieces (.unit n :: ps) ('\\' :: 'u' :: s) r

/-- Whether a unit is the first half of a surrogate pair. -/
def Lead (n : Nat) : Prop := 0xd800 ≤ n ∧ n ≤ 0xdbff

/-- Whether a unit is the second half of a surrogate pair. -/
def Trail (n : Nat) : Prop := 0xdc00 ≤ n ∧ n ≤ 0xdfff

instance (n : Nat) : Decidable (Lead n) := inferInstanceAs (Decidable (_ ∧ _))

instance (n : Nat) : Decidable (Trail n) := inferInstanceAs (Decidable (_ ∧ _))

/-- The character of a surrogate pair. -/
def paired (lead trail : Nat) : Char :=
  Char.ofNat (0x10000 + (lead - 0xd800) * 0x400 + (trail - 0xdc00))

/-- The characters that pieces stand for, unless half of a surrogate pair stands alone. -/
def content? : List Piece → Option (List Char)
  | [] => some []
  | .char c :: ps => (content? ps).map (c :: ·)
  | .unit n :: .unit m :: ps =>
    if Lead n ∧ Trail m then (content? ps).map (paired n m :: ·)
    else if Lead n ∨ Trail n then none
    else (content? (.unit m :: ps)).map (Char.ofNat n :: ·)
  | .unit n :: ps =>
    if Lead n ∨ Trail n then none else (content? ps).map (Char.ofNat n :: ·)

/-- A string between its quotes. -/
inductive Quoted : Phrase (Option (List Char))
  | mk {ps : List Piece} {s r : List Char} (inside : Pieces ps s ('"' :: r)) :
      Quoted (content? ps) ('"' :: s) r

/-! ## Numbers -/

/-- Whether a character is a decimal digit. -/
def Digit (c : Char) : Prop := c ∈ "0123456789".toList

instance (c : Char) : Decidable (Digit c) := inferInstanceAs (Decidable (c ∈ _))

/-- Any number of digits. -/
def Run (s r : List Char) : Prop := ∃ w, (∀ c ∈ w, Digit c) ∧ s = w ++ r

/-- One digit or more. -/
inductive Digits : List Char → List Char → Prop
  | mk {d : Char} {s r : List Char} (first : Digit d) (more : Run s r) : Digits (d :: s) r

/-- The whole part of a number, which has no leading zeros. -/
inductive Whole : List Char → List Char → Prop
  | zero (r : List Char) : Whole ('0' :: r) r
  | digits {s r : List Char} (nonzero : s.head? ≠ some '0') (digits : Digits s r) : Whole s r

/-- The fraction of a number, if any. -/
inductive Fraction : List Char → List Char → Prop
  | none (r : List Char) : Fraction r r
  | some {s r : List Char} (digits : Digits s r) : Fraction ('.' :: s) r

/-- The sign of an exponent, if any. -/
inductive Sign : List Char → List Char → Prop
  | none (r : List Char) : Sign r r
  | plus (r : List Char) : Sign ('+' :: r) r
  | minus (r : List Char) : Sign ('-' :: r) r

/-- The exponent of a number, if any. -/
inductive Exponent : List Char → List Char → Prop
  | none (r : List Char) : Exponent r r
  | some {e : Char} {s s' r : List Char} (letter : e ∈ ['e', 'E']) (sign : Sign s s')
      (digits : Digits s' r) : Exponent (e :: s) r

/-- A number without its sign. -/
inductive Magnitude : List Char → List Char → Prop
  | mk {s₁ s₂ s₃ r : List Char} (whole : Whole s₁ s₂) (fraction : Fraction s₂ s₃)
      (exponent : Exponent s₃ r) : Magnitude s₁ r

/-- A number. -/
inductive Numeral : List Char → List Char → Prop
  | positive {s r : List Char} (magnitude : Magnitude s r) : Numeral s r
  | negative {s r : List Char} (magnitude : Magnitude s r) : Numeral ('-' :: s) r

/-! ## Values -/

/-- A thing with blanks around it. -/
inductive Padded {α : Type} (item : Phrase α) : Phrase α
  | mk {a : α} {s s₁ s₂ r : List Char} (before : Blanks s s₁) (inner : item a s₁ s₂)
      (after : Blanks s₂ r) : Padded item a s r

/-- Things with commas between them, one or more. -/
inductive SepBy {α : Type} (item : Phrase α) : Phrase (List α)
  | last {a : α} {s r : List Char} (one : item a s r) : SepBy item [a] s r
  | more {a : α} {as : List α} {s s' r : List Char} (one : item a s (',' :: s'))
      (rest : SepBy item as s' r) : SepBy item (a :: as) s r

/-- A key with its value, and blanks around both. -/
inductive Member (item : Phrase Value) : Phrase (Option (List Char) × Value)
  | mk {key : Option (List Char)} {v : Value} {s s₁ r : List Char}
      (name : Padded Quoted key s (':' :: s₁)) (value : Padded item v s₁ r) :
      Member item (key, v) s r

/-- The spellings of a value.  Nothing is said here of how a text is read, so that the grammar can
be held against its description by itself.  A spelling has no blanks around it; where those may
stand is up to `Padded`. -/
inductive Spells : Phrase Value
  | null (r : List Char) : Spells .null ("null".toList ++ r) r
  | true (r : List Char) : Spells (.boolean true) ("true".toList ++ r) r
  | false (r : List Char) : Spells (.boolean false) ("false".toList ++ r) r
  | number {s r : List Char} (numeral : Numeral s r) : Spells .number s r
  | string {content : Option (List Char)} {s r : List Char} (quoted : Quoted content s r) :
      Spells (.string content) s r
  | emptyList {s r : List Char} (inside : Blanks s (']' :: r)) : Spells (.list []) ('[' :: s) r
  | list {vs : List Value} {s r : List Char} (elements : SepBy (Padded Spells) vs s (']' :: r)) :
      Spells (.list vs) ('[' :: s) r
  | emptyObject {s r : List Char} (inside : Blanks s ('\x7d' :: r)) :
      Spells (.object []) ('\x7b' :: s) r
  | object {ms : List (Option (List Char) × Value)} {s r : List Char}
      (members : SepBy (Member Spells) ms s ('\x7d' :: r)) : Spells (.object ms) ('\x7b' :: s) r

/-- The texts that hold one value and nothing else but blanks. -/
def Document (v : Value) (s : List Char) : Prop := Padded Spells v s []

end ShaderSketch.Json
