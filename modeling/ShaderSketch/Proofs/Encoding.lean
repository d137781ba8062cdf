import Mathlib.Algebra.Group.Nat.Defs
import Mathlib.Tactic.SplitIfs
import ShaderSketch.Text.Utf8

/-!
# Texts and their bytes

The bytes of a text are read strictly as that text again, and no other bytes are read as a text.

## Main results

* `Utf8.next_encodeChar` : the bytes of a character are read as that character, whatever follows
* `Utf8.decode?_encode` : reading takes back what writing produces
* `Utf8.encodeChar_of_next` : a character that is read is written by the bytes it was read from
* `Utf8.decode?_eq_some_iff` : bytes are a text exactly if they are what writing it produces
* `Utf8.mem_encode` : the bytes of a text are ASCII only for its ASCII characters

## Design notes

There is one lemma for each length of a character.  Bytes are compared as numbers, and the bits of
a byte are its remainder by a power of two.
-/

namespace ShaderSketch.Utf8

/-! ## Bytes -/

/-- A byte that continues a sequence, with six bits of a character. -/
theorem toNat_tail (n : Nat) : (UInt8.ofNat (n % 0x40 + 0x80)).toNat = n % 0x40 + 0x80 :=
  UInt8.toNat_ofNat_of_lt' (show n % 0x40 + 0x80 < 256 by omega)

theorem isContinuation_tail (n : Nat) : isContinuation (UInt8.ofNat (n % 0x40 + 0x80)) = true := by
  simp only [isContinuation, Bool.and_eq_true, decide_eq_true_eq, UInt8.le_iff_toNat_le, toNat_tail]
  exact ⟨by simp, by simp; omega⟩

theorem low_tail (n : Nat) : low (UInt8.ofNat (n % 0x40 + 0x80)) = n % 0x40 := by
  rw [low, UInt8.toNat_and, toNat_tail]
  show (n % 0x40 + 0x80) &&& (2 ^ 6 - 1) = n % 0x40
  rw [Nat.and_two_pow_sub_one_eq_mod]
  omega

/-- The bits of a lead byte that belong to the character. -/
theorem toNat_and_lead {n k : Nat} {mask : UInt8} (h : n < 256) (hmask : mask.toNat = 2 ^ k - 1) :
    (UInt8.ofNat n &&& mask).toNat = n % 2 ^ k := by
  rw [UInt8.toNat_and, UInt8.toNat_ofNat_of_lt' h, hmask, Nat.and_two_pow_sub_one_eq_mod]

theorem inRange_iff (r : UInt8 × UInt8) (b : UInt8) :
    inRange r b = true ↔ r.1.toNat ≤ b.toNat ∧ b.toNat ≤ r.2.toNat := by
  simp [inRange, UInt8.le_iff_toNat_le]

/-! ## Characters -/

variable {c : Char}

theorem scalar_toNat (c : Char) : scalar c.toNat = c := Char.ofNat_toNat c

/-- No character is a surrogate, or past the last plane. -/
theorem toNat_bounds (c : Char) : c.toNat < 0xd800 ∨ 0xdfff < c.toNat ∧ c.toNat < 0x110000 :=
  c.valid

theorem next_one (h : c.toNat ≤ 0x7f) (rest : List UInt8) :
    next (UInt8.ofNat c.toNat) rest = (some c, 0) := by
  have hlead : (UInt8.ofNat c.toNat).toNat = c.toNat :=
    UInt8.toNat_ofNat_of_lt' (show c.toNat < 256 by omega)
  have hsmall : UInt8.ofNat c.toNat < 0x80 := by
    rw [UInt8.lt_iff_toNat_lt, hlead]
    exact Nat.lt_succ_of_le h
  unfold next
  rw [if_pos hsmall, hlead, scalar_toNat]

theorem next_two (h : 0x7f < c.toNat) (h' : c.toNat ≤ 0x7ff) (rest : List UInt8) :
    next (UInt8.ofNat (c.toNat / 64 % 0x20 + 0xc0)) (UInt8.ofNat (c.toNat % 0x40 + 0x80) :: rest) =
      (some c, 1) := by
  have hlead : (UInt8.ofNat (c.toNat / 64 % 0x20 + 0xc0)).toNat = c.toNat / 64 % 0x20 + 0xc0 :=
    UInt8.toNat_ofNat_of_lt' (show _ < 256 by omega)
  have hbits : (UInt8.ofNat (c.toNat / 64 % 0x20 + 0xc0) &&& 0x1f).toNat =
      (c.toNat / 64 % 0x20 + 0xc0) % 2 ^ 5 := toNat_and_lead (by omega) rfl
  have hvalue : (c.toNat / 64 % 0x20 + 0xc0) % 2 ^ 5 * 64 + c.toNat % 0x40 = c.toNat := by omega
  simp only [next, UInt8.lt_iff_toNat_lt, UInt8.le_iff_toNat_le, hlead, hbits, isContinuation_tail,
    low_tail, Bool.and_eq_true, decide_eq_true_eq]
  rw [if_neg (by simp), if_pos ⟨by simp; omega, by simp; omega⟩, if_pos trivial, hvalue,
    scalar_toNat]

/-- The byte after the first of three is in its range: the form is not overlong, and the character
is no surrogate. -/
theorem inRange_three (h : 0x7ff < c.toNat) (h' : c.toNat ≤ 0xffff) :
    inRange (secondRange (UInt8.ofNat (c.toNat / 4096 % 0x10 + 0xe0)))
      (UInt8.ofNat (c.toNat / 64 % 0x40 + 0x80)) = true := by
  have hvalid := toNat_bounds c
  have hlead : (UInt8.ofNat (c.toNat / 4096 % 0x10 + 0xe0)).toNat = c.toNat / 4096 % 0x10 + 0xe0 :=
    UInt8.toNat_ofNat_of_lt' (show _ < 256 by omega)
  rw [inRange_iff, toNat_tail]
  simp only [secondRange, beq_iff_eq, ← UInt8.toNat_inj, hlead]
  split_ifs <;> simp_all <;> omega

/-- Three bytes, of which the second has a range of its own under some leads. -/
theorem next_three (h : 0x7ff < c.toNat) (h' : c.toNat ≤ 0xffff) (rest : List UInt8) :
    next (UInt8.ofNat (c.toNat / 4096 % 0x10 + 0xe0))
        (UInt8.ofNat (c.toNat / 64 % 0x40 + 0x80) :: UInt8.ofNat (c.toNat % 0x40 + 0x80) :: rest) =
      (some c, 2) := by
  have hrange := inRange_three h h'
  have hlead : (UInt8.ofNat (c.toNat / 4096 % 0x10 + 0xe0)).toNat = c.toNat / 4096 % 0x10 + 0xe0 :=
    UInt8.toNat_ofNat_of_lt' (show _ < 256 by omega)
  have hbits : (UInt8.ofNat (c.toNat / 4096 % 0x10 + 0xe0) &&& 0x0f).toNat =
      (c.toNat / 4096 % 0x10 + 0xe0) % 2 ^ 4 := toNat_and_lead (by omega) rfl
  have hvalue : (c.toNat / 4096 % 0x10 + 0xe0) % 2 ^ 4 * 4096 + c.toNat / 64 % 0x40 * 64 +
      c.toNat % 0x40 = c.toNat := by omega
  simp only [next, UInt8.lt_iff_toNat_lt, UInt8.le_iff_toNat_le, hlead, hbits, hrange,
    isContinuation_tail, low_tail, Bool.and_eq_true, decide_eq_true_eq]
  rw [if_neg (by simp), if_neg (by simp), if_pos ⟨by simp, by simp; omega⟩, if_pos trivial,
    if_pos trivial, hvalue, scalar_toNat]

/-- The byte after the first of four is in its range: the form is not overlong, and the character is
not past the last plane. -/
theorem inRange_four (h : 0xffff < c.toNat) :
    inRange (secondRange (UInt8.ofNat (c.toNat / 262144 % 0x08 + 0xf0)))
      (UInt8.ofNat (c.toNat / 4096 % 0x40 + 0x80)) = true := by
  have hvalid := toNat_bounds c
  have hlead : (UInt8.ofNat (c.toNat / 262144 % 0x08 + 0xf0)).toNat =
      c.toNat / 262144 % 0x08 + 0xf0 := UInt8.toNat_ofNat_of_lt' (show _ < 256 by omega)
  rw [inRange_iff, toNat_tail]
  simp only [secondRange, beq_iff_eq, ← UInt8.toNat_inj, hlead]
  split_ifs <;> simp_all <;> omega

/-- Four bytes, of which the second has a range of its own under some leads. -/
theorem next_four (h : 0xffff < c.toNat) (rest : List UInt8) :
    next (UInt8.ofNat (c.toNat / 262144 % 0x08 + 0xf0))
        (UInt8.ofNat (c.toNat / 4096 % 0x40 + 0x80) :: UInt8.ofNat (c.toNat / 64 % 0x40 + 0x80) ::
          UInt8.ofNat (c.toNat % 0x40 + 0x80) :: rest) =
      (some c, 3) := by
  have hvalid := toNat_bounds c
  have hrange := inRange_four h
  have hlead : (UInt8.ofNat (c.toNat / 262144 % 0x08 + 0xf0)).toNat =
      c.toNat / 262144 % 0x08 + 0xf0 := UInt8.toNat_ofNat_of_lt' (show _ < 256 by omega)
  have hbits : (UInt8.ofNat (c.toNat / 262144 % 0x08 + 0xf0) &&& 0x07).toNat =
      (c.toNat / 262144 % 0x08 + 0xf0) % 2 ^ 3 := toNat_and_lead (by omega) rfl
  have hvalue : (c.toNat / 262144 % 0x08 + 0xf0) % 2 ^ 3 * 262144 + c.toNat / 4096 % 0x40 * 4096 +
      c.toNat / 64 % 0x40 * 64 + c.toNat % 0x40 = c.toNat := by omega
  simp only [next, UInt8.lt_iff_toNat_lt, UInt8.le_iff_toNat_le, hlead, hbits, hrange,
    isContinuation_tail, low_tail, Bool.and_eq_true, decide_eq_true_eq]
  rw [if_neg (by simp), if_neg (by simp), if_neg (by simp), if_pos ⟨by simp, by simp; omega⟩,
    if_pos trivial, if_pos trivial, if_pos trivial, hvalue, scalar_toNat]

/-- **The bytes of a character are read as that character**, whatever follows.  That it does not
matter what follows is what lets a text be read character by character. -/
theorem next_encodeChar (c : Char) (rest : List UInt8) :
    ∃ lead tail, String.utf8EncodeChar c = lead :: tail ∧
      next lead (tail ++ rest) = (some c, tail.length) := by
  have hval : c.val.toNat = c.toNat := rfl
  simp only [String.utf8EncodeChar, hval]
  split_ifs with hone htwo hthree
  · exact ⟨_, _, rfl, next_one hone rest⟩
  · exact ⟨_, _, rfl, next_two (by omega) htwo rest⟩
  · exact ⟨_, _, rfl, next_three (by omega) hthree rest⟩
  · exact ⟨_, _, rfl, next_four (by omega) rest⟩

/-- **Reading takes back what writing produces.** -/
theorem decode?_encode (s : List Char) : decode? (encode s) = some s := by
  induction s with
  | nil => simp [encode, decode?]
  | cons c s ih =>
      obtain ⟨lead, tail, hbytes, hnext⟩ := next_encodeChar c (encode s)
      have hencode : encode (c :: s) = lead :: (tail ++ encode s) := by
        rw [encode, List.flatMap_cons, hbytes]
        rfl
      rw [hencode, decode?, hnext]
      simp only [List.drop_left, ih, Option.map_some]

/-! ## Bytes that are text -/

theorem toNat_scalar {n : Nat} (h : n < 0xd800 ∨ 0xdfff < n ∧ n < 0x110000) :
    (scalar n).toNat = n := by
  unfold scalar Char.ofNat
  rw [dif_pos h]
  rfl

theorem isContinuation_iff (b : UInt8) :
    isContinuation b = true ↔ 0x80 ≤ b.toNat ∧ b.toNat ≤ 0xbf := by
  simp [isContinuation, UInt8.le_iff_toNat_le]

/-- The bits of a byte under a mask. -/
theorem toNat_and_mask {b mask : UInt8} {k : Nat} (hmask : mask.toNat = 2 ^ k - 1) :
    (b &&& mask).toNat = b.toNat % 2 ^ k := by
  rw [UInt8.toNat_and, hmask, Nat.and_two_pow_sub_one_eq_mod]

theorem toNat_low (b : UInt8) : low b = b.toNat % 2 ^ 6 := toNat_and_mask rfl

/-- A byte is one of a value when the value is its own. -/
theorem ofNat_eq {n : Nat} {b : UInt8} (h : n = b.toNat) : UInt8.ofNat n = b := by
  rw [h, UInt8.ofNat_toNat]

theorem encodeChar_scalar {n : Nat} (h : n < 0xd800 ∨ 0xdfff < n ∧ n < 0x110000) :
    String.utf8EncodeChar (scalar n) =
      if n ≤ 0x7f then [UInt8.ofNat n]
      else if n ≤ 0x7ff then [UInt8.ofNat (n / 64 % 0x20 + 0xc0), UInt8.ofNat (n % 0x40 + 0x80)]
      else if n ≤ 0xffff then
        [UInt8.ofNat (n / 4096 % 0x10 + 0xe0), UInt8.ofNat (n / 64 % 0x40 + 0x80),
          UInt8.ofNat (n % 0x40 + 0x80)]
      else
        [UInt8.ofNat (n / 262144 % 0x08 + 0xf0), UInt8.ofNat (n / 4096 % 0x40 + 0x80),
          UInt8.ofNat (n / 64 % 0x40 + 0x80), UInt8.ofNat (n % 0x40 + 0x80)] := by
  have hval : (scalar n).val.toNat = n := toNat_scalar h
  simp only [String.utf8EncodeChar, hval]

theorem encodeChar_two {a b : UInt8} (ha : 0xc2 ≤ a.toNat ∧ a.toNat ≤ 0xdf)
    (hb : isContinuation b = true) :
    String.utf8EncodeChar (scalar ((a &&& 0x1f).toNat * 64 + low b)) = [a, b] := by
  rw [isContinuation_iff] at hb
  have hlead : (a &&& 0x1f).toNat = a.toNat % 2 ^ 5 := toNat_and_mask rfl
  rw [hlead, toNat_low, encodeChar_scalar (by omega), if_neg (by omega), if_pos (by omega),
    ofNat_eq (b := a) (by omega), ofNat_eq (b := b) (by omega)]

/-- The second byte of three: the form is not overlong, and the character is no surrogate. -/
theorem secondRange_three {a b : UInt8} (hb : inRange (secondRange a) b = true)
    (ha : a.toNat < 0xf0) :
    (0x80 ≤ b.toNat ∧ b.toNat ≤ 0xbf) ∧ (a.toNat = 0xe0 → 0xa0 ≤ b.toNat) ∧
      (a.toNat = 0xed → b.toNat ≤ 0x9f) := by
  rw [inRange_iff] at hb
  simp only [secondRange, beq_iff_eq, ← UInt8.toNat_inj] at hb
  split_ifs at hb <;> simp_all <;> omega

theorem encodeChar_three {a b c : UInt8} (ha : 0xe0 ≤ a.toNat ∧ a.toNat ≤ 0xef)
    (hb : inRange (secondRange a) b = true) (hc : isContinuation c = true) :
    String.utf8EncodeChar (scalar ((a &&& 0x0f).toNat * 4096 + low b * 64 + low c)) =
      [a, b, c] := by
  rw [isContinuation_iff] at hc
  obtain ⟨hb, hoverlong, hsurrogate⟩ := secondRange_three hb (by omega)
  have hlead : (a &&& 0x0f).toNat = a.toNat % 2 ^ 4 := toNat_and_mask rfl
  rw [hlead, toNat_low, toNat_low, encodeChar_scalar (by omega), if_neg (by omega),
    if_neg (by omega), if_pos (by omega), ofNat_eq (b := a) (by omega),
    ofNat_eq (b := b) (by omega), ofNat_eq (b := c) (by omega)]

/-- The second byte of four: the form is not overlong, and the character is not past the last
plane. -/
theorem secondRange_four {a b : UInt8} (hb : inRange (secondRange a) b = true)
    (ha : 0xf0 ≤ a.toNat) :
    (0x80 ≤ b.toNat ∧ b.toNat ≤ 0xbf) ∧ (a.toNat = 0xf0 → 0x90 ≤ b.toNat) ∧
      (a.toNat = 0xf4 → b.toNat ≤ 0x8f) := by
  rw [inRange_iff] at hb
  simp only [secondRange, beq_iff_eq, ← UInt8.toNat_inj] at hb
  split_ifs at hb <;> simp_all <;> omega

theorem encodeChar_four {a b c d : UInt8} (ha : 0xf0 ≤ a.toNat ∧ a.toNat ≤ 0xf4)
    (hb : inRange (secondRange a) b = true) (hc : isContinuation c = true)
    (hd : isContinuation d = true) :
    String.utf8EncodeChar
        (scalar ((a &&& 0x07).toNat * 262144 + low b * 4096 + low c * 64 + low d)) =
      [a, b, c, d] := by
  rw [isContinuation_iff] at hc hd
  obtain ⟨hb, hoverlong, hlast⟩ := secondRange_four hb (by omega)
  have hlead : (a &&& 0x07).toNat = a.toNat % 2 ^ 3 := toNat_and_mask rfl
  rw [hlead, toNat_low, toNat_low, toNat_low, encodeChar_scalar (by omega), if_neg (by omega),
    if_neg (by omega), if_neg (by omega), ofNat_eq (b := a) (by omega),
    ofNat_eq (b := b) (by omega), ofNat_eq (b := c) (by omega), ofNat_eq (b := d) (by omega)]

/-- **A character that is read is written by the bytes it was read from.**  This is why forms that
are too long have to be refused: each of them would be read as a character that is written with
fewer bytes. -/
theorem encodeChar_of_next {lead : UInt8} {rest : List UInt8} {c : Char} {n : Nat}
    (h : next lead rest = (some c, n)) :
    lead :: rest = String.utf8EncodeChar c ++ rest.drop n := by
  unfold next at h
  simp only [UInt8.lt_iff_toNat_lt, UInt8.le_iff_toNat_le, Bool.and_eq_true,
    decide_eq_true_eq] at h
  -- what does not end in a character is no text; there is one case for each length
  repeat' split at h
  all_goals cases h
  · rename_i hone
    have hsmall : lead.toNat < 0x80 := hone
    rw [encodeChar_scalar (by omega), if_pos (by omega), UInt8.ofNat_toNat]
    rfl
  · rename_i hlead _ b _ hb
    rw [encodeChar_two hlead hb]
    rfl
  · rename_i hlead _ b hb _ c _ hc
    rw [encodeChar_three hlead hb hc]
    rfl
  · rename_i hlead _ b hb _ c hc _ d _ hd
    rw [encodeChar_four hlead hb hc hd]
    rfl

/-- **Bytes are a text exactly if they are what writing it produces.**  So a text can be recovered
from its bytes, and nothing else can be taken for them; a command line or a file is one text or
none. -/
theorem decode?_eq_some_iff {bytes : List UInt8} {s : List Char} :
    decode? bytes = some s ↔ encode s = bytes := by
  constructor
  · intro h
    induction bytes using decode?.induct generalizing s with
    | case1 =>
        rw [decode?] at h
        cases h
        rfl
    | case2 b bs c n hnext ih =>
        rw [decode?, hnext] at h
        obtain ⟨s', hs', rfl⟩ := Option.map_eq_some_iff.mp h
        rw [encode, List.flatMap_cons, encodeChar_of_next hnext]
        exact congrArg _ (ih hs')
    | case3 b bs n hnext =>
        rw [decode?, hnext] at h
        cases h
  · rintro rfl
    exact decode?_encode s

/-! ## Bytes of ASCII characters -/

theorem encode_append (s t : List Char) : encode (s ++ t) = encode s ++ encode t :=
  List.flatMap_append

/-- A byte of a character is the character itself, or is none of ASCII. -/
theorem toNat_of_mem_encodeChar {c : Char} {b : UInt8} (h : b ∈ String.utf8EncodeChar c) :
    b.toNat = c.toNat ∨ 0x80 ≤ b.toNat := by
  have hval : c.val.toNat = c.toNat := rfl
  simp only [String.utf8EncodeChar, hval] at h
  split_ifs at h
  all_goals
    simp only [List.mem_cons, List.not_mem_nil, or_false] at h
    obtain rfl | rfl | rfl | rfl := h
  all_goals rw [UInt8.toNat_ofNat']; omega

/-- **A text has an ASCII character where its bytes have it.**  The bytes of what is beyond ASCII
are beyond ASCII themselves (`toNat_of_mem_encodeChar`), so that the end of a line can be looked for
among the bytes. -/
theorem mem_encode {s : List Char} {c : Char} (h : c.toNat < 0x80) :
    UInt8.ofNat c.toNat ∈ encode s ↔ c ∈ s := by
  have hbyte : (UInt8.ofNat c.toNat).toNat = c.toNat :=
    UInt8.toNat_ofNat_of_lt' (Nat.lt_trans h (by decide))
  constructor
  · intro hmem
    obtain ⟨d, hd, hbytes⟩ := List.mem_flatMap.mp hmem
    obtain hsame | hlarge := toNat_of_mem_encodeChar hbytes
    · obtain rfl : c = d := Char.toNat_inj.mp (hbyte.symm.trans hsame)
      exact hd
    · omega
  · refine fun hmem => List.mem_flatMap.mpr ⟨c, hmem, ?_⟩
    have hsmall : c.val.toNat ≤ 0x7f := Nat.le_of_lt_succ h
    rw [String.utf8EncodeChar, if_pos hsmall]
    exact List.mem_singleton_self _

end ShaderSketch.Utf8
