/-!
# UTF-8

Bytes as text. Reading is strict, where one malformed sequence refuses the whole, or lossy, where
each maximal malformed prefix becomes one replacement character.

## Main definitions

* `Utf8.next` : the character that a lead byte starts, and how many bytes follow it
* `Utf8.decode?` : the strict reading
* `Utf8.decodeLossy` : the lossy reading
* `Utf8.encode` : the bytes of a text
* `Utf8.size` : how many bytes a text takes

## Design notes

`next` answers with the bytes beyond the lead byte, so both readers advance by at least one byte
and end by the length of what is left.
-/

namespace ShaderSketch.Utf8

/-- A character for a scalar value that is known to be one. -/
def scalar (n : Nat) : Char := Char.ofNat n

/-- Whether a byte continues a sequence. -/
def isContinuation (b : UInt8) : Bool := 0x80 ≤ b && b ≤ 0xbf

/-- The bits of a continuation byte that belong to the character. -/
def low (b : UInt8) : Nat := (b &&& 0x3f).toNat

/-- The range that the byte after a lead byte has to lie in, so that no overlong form, surrogate
or value past the last scalar is read. -/
def secondRange (lead : UInt8) : UInt8 × UInt8 :=
  if lead == 0xe0 then (0xa0, 0xbf)
  else if lead == 0xed then (0x80, 0x9f)
  else if lead == 0xf0 then (0x90, 0xbf)
  else if lead == 0xf4 then (0x80, 0x8f)
  else (0x80, 0xbf)

/-- Whether a byte lies in a range. -/
def inRange (r : UInt8 × UInt8) (b : UInt8) : Bool := r.1 ≤ b && b ≤ r.2

/-- The character that a lead byte starts and the number of bytes after the lead byte that belong
to it; with no character, the number of bytes that belong to the malformed prefix. -/
def next (lead : UInt8) (rest : List UInt8) : Option Char × Nat :=
  if lead < 0x80 then (some (scalar lead.toNat), 0)
  else if 0xc2 ≤ lead && lead ≤ 0xdf then
    match rest with
    | b :: _ =>
      if isContinuation b then (some (scalar ((lead &&& 0x1f).toNat * 64 + low b)), 1)
      else (none, 0)
    | [] => (none, 0)
  else if 0xe0 ≤ lead && lead ≤ 0xef then
    match rest with
    | b :: more =>
      if inRange (secondRange lead) b then
        match more with
        | c :: _ =>
          if isContinuation c then
            (some (scalar ((lead &&& 0x0f).toNat * 4096 + low b * 64 + low c)), 2)
          else (none, 1)
        | [] => (none, 1)
      else (none, 0)
    | [] => (none, 0)
  else if 0xf0 ≤ lead && lead ≤ 0xf4 then
    match rest with
    | b :: more =>
      if inRange (secondRange lead) b then
        match more with
        | c :: more =>
          if isContinuation c then
            match more with
            | d :: _ =>
              if isContinuation d then
                (some (scalar ((lead &&& 0x07).toNat * 262144 + low b * 4096 + low c * 64
                  + low d)), 3)
              else (none, 2)
            | [] => (none, 2)
          else (none, 1)
        | [] => (none, 1)
      else (none, 0)
    | [] => (none, 0)
  else (none, 0)

/-- The text of a byte string, or nothing when some byte does not belong to a character. -/
def decode? : List UInt8 → Option (List Char)
  | [] => some []
  | b :: bs =>
    match next b bs with
    | (some c, n) => (decode? (bs.drop n)).map (c :: ·)
    | (none, _) => none
termination_by bs => bs.length
decreasing_by simp only [List.length_drop, List.length_cons]; omega

/-- The text of a byte string with each maximal malformed prefix replaced. -/
def decodeLossy : List UInt8 → List Char
  | [] => []
  | b :: bs => (next b bs).1.getD '\ufffd' :: decodeLossy (bs.drop (next b bs).2)
termination_by bs => bs.length
decreasing_by simp only [List.length_drop, List.length_cons]; omega

/-- The bytes of a text. -/
def encode (s : List Char) : List UInt8 := s.flatMap String.utf8EncodeChar

/-- The number of bytes that a text takes. -/
def size : List Char → Nat
  | [] => 0
  | c :: s => c.utf8Size + size s

/-- Every character takes a byte at least. -/
theorem length_le_size (s : List Char) : s.length ≤ size s := by
  induction s with
  | nil => exact Nat.le_refl _
  | cons c s ih =>
      have hpos := c.utf8Size_pos
      rw [List.length_cons, size]
      omega

end ShaderSketch.Utf8
