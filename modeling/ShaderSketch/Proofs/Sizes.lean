import Mathlib.Data.List.Basic
import Mathlib.Data.List.TakeWhile
import ShaderSketch.CommandLine.Size

/-!
# How sizes are spelled

A size is a width and a height in decimal digits with an `x` of either case between them.  Blanks
may stand around the whole and around both numbers, and a plus sign in front of either.

## Main definitions

* `Text.Stripped` — a text is another one without its blank margins
* `Natural.Spelled` — a text spells a number
* `Size.Spelled` — a text spells a width and a height

## Main results

* `Text.trim_eq_iff` : trimming strips a text
* `Natural.read_eq_ok` : a number is read from its spellings, up to a limit
* `Size.read_eq_ok` : a size is read from its spellings
* `Size.sizes_spelled` : sizes are read from their spellings and from nothing else
-/

namespace ShaderSketch

/-! ## Margins -/

namespace Text

/-- A text is another one without its blank margins: only blanks stand around it, and it neither
starts nor ends with one.  It says nothing of how much is taken away, but there is one such text at
most. -/
structure Stripped (s t : List Char) : Prop where
  margins : ∃ front back, s = front ++ t ++ back ∧ (∀ c ∈ front, isBlank c) ∧ ∀ c ∈ back, isBlank c
  start : ∀ c ∈ t.head?, isBlank c = false
  finish : ∀ c ∈ t.getLast?, isBlank c = false

variable {s t : List Char}

theorem trimStart_eq_self (h : ∀ c ∈ s.head?, isBlank c = false) : trimStart s = s := by
  cases s with
  | nil => rfl
  | cons c s => exact List.dropWhile_cons_of_neg (by simp [h c rfl])

theorem trimEnd_eq_self (h : ∀ c ∈ s.getLast?, isBlank c = false) : trimEnd s = s := by
  rw [← List.head?_reverse] at h
  rw [trimEnd, ← trimStart, trimStart_eq_self h, List.reverse_reverse]

/-- A text that neither starts nor ends with a blank has no margins. -/
theorem trim_eq_self (hstart : ∀ c ∈ s.head?, isBlank c = false)
    (hfinish : ∀ c ∈ s.getLast?, isBlank c = false) : trim s = s := by
  rw [trim, trimStart_eq_self hstart, trimEnd_eq_self hfinish]

theorem trim_of_not_blank (h : ∀ c ∈ s, isBlank c = false) : trim s = s :=
  trim_eq_self (fun c hc => h c (List.mem_of_mem_head? hc))
    (fun c hc => h c (List.mem_of_mem_getLast? hc))

/-- Blanks around a text are no part of it. -/
theorem trim_append {front back : List Char} (hfront : ∀ c ∈ front, isBlank c = true)
    (hback : ∀ c ∈ back, isBlank c = true) : trim (front ++ s ++ back) = trim s := by
  rw [trim, trim, trimStart, trimStart, List.append_assoc, List.dropWhile_append_of_pos hfront,
    List.dropWhile_append]
  split
  · rename_i hempty
    rw [List.dropWhile_eq_nil_iff.mpr hback, List.isEmpty_iff.mp hempty]
  · rw [trimEnd, trimEnd, List.reverse_append,
      List.dropWhile_append_of_pos fun c hc => hback c (List.mem_reverse.mp hc)]

/-- A text is blanks and then what is left of it, which starts with no blank. -/
theorem trimStart_spec (s : List Char) :
    (∃ front, s = front ++ trimStart s ∧ ∀ c ∈ front, isBlank c) ∧
      ∀ c ∈ (trimStart s).head?, isBlank c = false := by
  refine ⟨⟨s.takeWhile isBlank, List.takeWhile_append_dropWhile.symm, ?_⟩, ?_⟩
  · intro c hc
    exact List.mem_takeWhile_imp hc
  · intro c hc
    have hhead := List.head?_dropWhile_not isBlank s
    rw [show s.dropWhile isBlank = trimStart s from rfl, Option.mem_def.mp hc] at hhead
    exact hhead

/-- A text is what is left of it and then blanks, and what is left ends with no blank. -/
theorem trimEnd_spec (s : List Char) :
    (∃ back, s = trimEnd s ++ back ∧ ∀ c ∈ back, isBlank c) ∧
      ∀ c ∈ (trimEnd s).getLast?, isBlank c = false := by
  obtain ⟨⟨front, hs, hfront⟩, hhead⟩ := trimStart_spec s.reverse
  refine ⟨⟨front.reverse, ?_, ?_⟩, ?_⟩
  · have hback := congrArg List.reverse hs
    rwa [List.reverse_reverse, List.reverse_append] at hback
  · intro c hc
    exact hfront c (List.mem_reverse.mp hc)
  · intro c hc
    rw [trimEnd, ← trimStart, List.getLast?_reverse] at hc
    exact hhead c hc

/-- **Trimming strips a text**, and nothing else does. -/
theorem trim_eq_iff : trim s = t ↔ Stripped s t := by
  constructor
  · rintro rfl
    obtain ⟨⟨front, hs, hfront⟩, hstart⟩ := trimStart_spec s
    obtain ⟨⟨back, hrest, hback⟩, hfinish⟩ := trimEnd_spec (trimStart s)
    refine ⟨⟨front, back, ?_, hfront, hback⟩, ?_, hfinish⟩
    · rw [trim, List.append_assoc, ← hrest, ← hs]
    · intro c hc
      apply hstart
      rw [hrest]
      exact List.mem_head?_append_of_mem_head? hc
  · rintro ⟨⟨front, back, rfl, hfront, hback⟩, hstart, hfinish⟩
    rw [trim_append hfront hback, trim_eq_self hstart hfinish]

theorem cutAt_append {p : Char → Bool} {c : Char} (hs : ∀ a ∈ s, p a = false) (hc : p c = true) :
    cutAt p (s ++ c :: t) = some (s, t) := by
  induction s with
  | nil => exact if_pos hc
  | cons a s ih =>
      rw [List.forall_mem_cons] at hs
      simp only [List.cons_append, cutAt, hs.1, ih hs.2, Bool.false_eq_true, if_false,
        Option.map_some]

/-- A text is cut at the first character that a test picks out. -/
theorem cutAt_eq_some {p : Char → Bool} {a b : List Char} : cutAt p s = some (a, b) ↔
    ∃ c, s = a ++ c :: b ∧ p c = true ∧ ∀ d ∈ a, p d = false := by
  constructor
  · intro h
    induction s generalizing a with
    | nil => cases h
    | cons d s ih =>
        rw [cutAt] at h
        split at h
        · next hd =>
            cases h
            exact ⟨d, rfl, hd, List.forall_mem_nil _⟩
        · next hd =>
            obtain ⟨⟨a', b'⟩, hcut, heq⟩ := Option.map_eq_some_iff.mp h
            cases heq
            obtain ⟨c, rfl, hc, ha⟩ := ih hcut
            exact ⟨c, rfl, hc, List.forall_mem_cons.mpr ⟨Bool.eq_false_iff.mpr hd, ha⟩⟩
  · rintro ⟨c, rfl, hc, ha⟩
    exact cutAt_append ha hc

end Text

/-! ## Numbers -/

namespace Natural

/-- A text spells a number: digits, at least one of them, after a plus sign or not. -/
inductive Spelled : List Char → Nat → Prop
  | plain {digits : List Char} (nonempty : digits ≠ []) (decimal : ∀ c ∈ digits, c.isDigit) :
      Spelled digits (Nat.ofDigitChars 10 digits 0)
  | signed {digits : List Char} (nonempty : digits ≠ []) (decimal : ∀ c ∈ digits, c.isDigit) :
      Spelled ('+' :: digits) (Nat.ofDigitChars 10 digits 0)

variable {limit n m : Nat} {s : List Char}

/-- A digit has its distance from zero as its value. -/
theorem digit?_eq_some {c : Char} {d : Nat} :
    digit? c = some d ↔ c.isDigit ∧ c.toNat - '0'.toNat = d := by
  have hdigit : c.isDigit ↔ '0' ≤ c ∧ c ≤ '9' := by
    rw [Char.isDigit, Bool.and_eq_true, decide_eq_true_iff, decide_eq_true_iff]
    rfl
  unfold digit?
  split
  · next h => rw [Option.some_inj, hdigit, and_iff_right h]
  · next h =>
      constructor
      · intro hnone
        cases hnone
      · intro hsome
        exact absurd (hdigit.mp hsome.1) h

/-- More digits make no number smaller. -/
theorem le_ofDigitChars (n : Nat) (s : List Char) : n ≤ Nat.ofDigitChars 10 s n := by
  rw [Nat.ofDigitChars_eq_ofDigitChars_zero]
  calc n ≤ 10 ^ s.length * n := Nat.le_mul_of_pos_left n (Nat.pow_pos (by decide))
    _ ≤ 10 ^ s.length * n + Nat.ofDigitChars 10 s 0 := Nat.le_add_right _ _

/-- **Further digits make the number that they denote**, unless it is past the limit.  Digits only
make a number greater, so that it does not matter at which of them the limit is passed. -/
theorem extend_eq_ok (h : n ≤ limit) : extend limit n s = .ok m ↔
    (∀ c ∈ s, c.isDigit) ∧ Nat.ofDigitChars 10 s n = m ∧ m ≤ limit := by
  induction s generalizing n with
  | nil =>
      rw [extend, Except.ok.injEq, Nat.ofDigitChars_nil]
      constructor
      · rintro rfl
        exact ⟨List.forall_mem_nil _, rfl, h⟩
      · intro hm
        exact hm.2.1
  | cons c s ih =>
      rw [extend, List.forall_mem_cons, Nat.ofDigitChars_cons]
      split
      · next hnone =>
          constructor
          · intro hok
            cases hok
          · intro hm
            rw [digit?_eq_some.mpr ⟨hm.1.1, rfl⟩] at hnone
            cases hnone
      · next d hd =>
          obtain ⟨hc, rfl⟩ := digit?_eq_some.mp hd
          split
          · next hlarge =>
              -- What is past the limit now stays past it, whatever digits follow.
              constructor
              · intro hok
                cases hok
              · rintro ⟨-, rfl, hm⟩
                have hgrow := le_ofDigitChars (10 * n + (c.toNat - '0'.toNat)) s
                omega
          · next hsmall => rw [ih (Nat.not_lt.mp hsmall), and_iff_right hc]

/-- **A number is read from its spellings**, up to a limit. -/
theorem read_eq_ok : read limit s = .ok n ↔ Spelled s n ∧ n ≤ limit := by
  constructor
  · intro h
    unfold read at h
    split at h
    · cases h
    · cases h
    · next digits hdigits =>
        obtain ⟨hdecimal, rfl, hn⟩ := (extend_eq_ok limit.zero_le).mp h
        exact ⟨.signed (fun hnil => hdigits (hnil ▸ rfl)) hdecimal, hn⟩
    · next hnil _ _ =>
        obtain ⟨hdecimal, rfl, hn⟩ := (extend_eq_ok limit.zero_le).mp h
        exact ⟨.plain hnil hdecimal, hn⟩
  · rintro ⟨hspelled, hn⟩
    cases hspelled with
    | plain hnil hdecimal =>
        have hvalue : extend limit 0 s = .ok (Nat.ofDigitChars 10 s 0) :=
          (extend_eq_ok limit.zero_le).mpr ⟨hdecimal, rfl, hn⟩
        have hsign : '+' ∉ s := fun hmem => absurd (hdecimal '+' hmem) (by decide)
        unfold read
        split
        · next => exact absurd rfl hnil
        · next => exact absurd List.mem_cons_self hsign
        · next => exact absurd List.mem_cons_self hsign
        · exact hvalue
    | @signed digits hnil hdecimal =>
        have hvalue : extend limit 0 digits = .ok (Nat.ofDigitChars 10 digits 0) :=
          (extend_eq_ok limit.zero_le).mpr ⟨hdecimal, rfl, hn⟩
        cases digits with
        | nil => exact absurd rfl hnil
        | cons c digits => exact hvalue

/-- A number is read from its digits. -/
theorem read_toDigits (h : n ≤ limit) : read limit (Nat.toDigits 10 n) = .ok n := by
  have hdecimal : ∀ c ∈ Nat.toDigits 10 n, c.isDigit :=
    fun c hc => Nat.isDigit_of_mem_toDigits (by decide) (by decide) hc
  have hspelled := Spelled.plain Nat.toDigits_ne_nil hdecimal
  rw [Nat.ofDigitChars_ten_toDigits] at hspelled
  exact read_eq_ok.mpr ⟨hspelled, h⟩

end Natural

/-! ## Sizes -/

namespace Size

/-- A text spells a width and a height: without its margins it is the two sides with a separator
between them, and each side without its margins spells a number of 32 bits that is not zero. -/
def Spelled (text : List Char) (width height : Nat) : Prop :=
  ∃ t a sep b a' b', Text.Stripped text t ∧ t = a ++ sep :: b ∧ (sep = 'x' ∨ sep = 'X') ∧
    'x' ∉ a ∧ 'X' ∉ a ∧ Text.Stripped a a' ∧ Text.Stripped b b' ∧
    Natural.Spelled a' width ∧ Natural.Spelled b' height ∧
    (1 ≤ width ∧ width ≤ 0xffffffff) ∧ 1 ≤ height ∧ height ≤ 0xffffffff

theorem isSeparator_iff {c : Char} : isSeparator c = true ↔ c = 'x' ∨ c = 'X' := by
  rw [isSeparator, Bool.or_eq_true, decide_eq_true_iff, decide_eq_true_iff]

/-- A text without an `x` of either case has no separator. -/
theorem forall_isSeparator_iff {s : List Char} :
    (∀ c ∈ s, isSeparator c = false) ↔ 'x' ∉ s ∧ 'X' ∉ s := by
  constructor
  · intro h
    constructor
    · intro hx
      cases h 'x' hx
    · intro hX
      cases h 'X' hX
  · rintro ⟨hx, hX⟩ c hc
    rw [← Bool.not_eq_true, isSeparator_iff]
    rintro (rfl | rfl)
    · exact hx hc
    · exact hX hc

variable {text : List Char} {width height : Nat}

/-- What a text spells is what is read from its two parts. -/
theorem spelled_iff : Spelled text width height ↔
    ∃ a b, Text.cutAt isSeparator (Text.trim text) = some (a, b) ∧
      Natural.read Natural.limit32 (Text.trim a) = .ok width ∧
      Natural.read Natural.limit32 (Text.trim b) = .ok height ∧ width ≠ 0 ∧ height ≠ 0 := by
  constructor
  · rintro ⟨t, a, sep, b, a', b', ht, hcut, hsep, hx, hX, ha, hb, hw, hh, ⟨hw1, hw2⟩, hh1, hh2⟩
    rw [← Text.trim_eq_iff] at ht ha hb
    refine ⟨a, b, ?_, ?_, ?_, Nat.ne_of_gt hw1, Nat.ne_of_gt hh1⟩
    · rw [ht, Text.cutAt_eq_some]
      exact ⟨sep, hcut, isSeparator_iff.mpr hsep, forall_isSeparator_iff.mpr ⟨hx, hX⟩⟩
    · rw [ha, Natural.read_eq_ok]
      exact ⟨hw, hw2⟩
    · rw [hb, Natural.read_eq_ok]
      exact ⟨hh, hh2⟩
  · rintro ⟨a, b, hcut, hw, hh, hw0, hh0⟩
    obtain ⟨sep, ht, hsep, hplain⟩ := Text.cutAt_eq_some.mp hcut
    obtain ⟨hx, hX⟩ := forall_isSeparator_iff.mp hplain
    obtain ⟨hwidth, hw32⟩ := Natural.read_eq_ok.mp hw
    obtain ⟨hheight, hh32⟩ := Natural.read_eq_ok.mp hh
    exact ⟨Text.trim text, a, sep, b, Text.trim a, Text.trim b, Text.trim_eq_iff.mp rfl, ht,
      isSeparator_iff.mp hsep, hx, hX, Text.trim_eq_iff.mp rfl, Text.trim_eq_iff.mp rfl, hwidth,
      hheight, ⟨Nat.one_le_iff_ne_zero.mpr hw0, hw32⟩, Nat.one_le_iff_ne_zero.mpr hh0, hh32⟩

/-- A number of 32 bits is kept. -/
theorem toNat_ofNat_of_le {n : Nat} (h : n ≤ Natural.limit32) : (UInt32.ofNat n).toNat = n :=
  UInt32.toNat_ofNat_of_lt' (Nat.lt_succ_of_le h)

/-- **A size is read from its spellings.** -/
theorem read_eq_ok {text : String} {size : Size} :
    read text = .ok size ↔ Spelled text.toList size.width.toNat size.height.toNat := by
  rw [spelled_iff]
  constructor
  · intro h
    unfold read at h
    split at h
    · cases h
    · next a b hcut =>
        split at h
        · cases h
        · next width hw =>
            split at h
            · cases h
            · next height hh =>
                split at h
                · cases h
                · next hsides =>
                    cases h
                    rw [not_or] at hsides
                    dsimp only
                    rw [toNat_ofNat_of_le (Natural.read_eq_ok.mp hw).2,
                      toNat_ofNat_of_le (Natural.read_eq_ok.mp hh).2]
                    exact ⟨a, b, hcut, hw, hh, hsides⟩
  · rintro ⟨a, b, hcut, hw, hh, hsides⟩
    rw [← not_or] at hsides
    simp only [read, hcut, hw, hh, if_neg hsides, UInt32.ofNat_toNat]

/-- A digit is no blank and no separator. -/
theorem plain_of_isDigit {c : Char} (h : c.isDigit) :
    Text.isBlank c = false ∧ isSeparator c = false := by
  have hrange : 48 ≤ c.toNat ∧ c.toNat ≤ 57 := Char.isDigit_iff_toNat.mp h
  have hblank : Text.isBlank c = false := by
    simp only [Text.isBlank, Bool.or_eq_false_iff, Bool.and_eq_false_iff, beq_eq_false_iff_ne,
      decide_eq_false_iff_not]
    omega
  refine ⟨hblank, ?_⟩
  rw [← Bool.not_eq_true, isSeparator_iff]
  rintro (rfl | rfl) <;> cases h

/-- A size as it is written in decimal is one of its spellings. -/
theorem spelled_toDigits {width height : UInt32} (hw : width ≠ 0) (hh : height ≠ 0) :
    Spelled (Nat.toDigits 10 width.toNat ++ 'x' :: Nat.toDigits 10 height.toNat)
      width.toNat height.toNat := by
  have hplain {n : Nat} {c : Char} (hc : c ∈ Nat.toDigits 10 n) :
      Text.isBlank c = false ∧ isSeparator c = false :=
    plain_of_isDigit (Nat.isDigit_of_mem_toDigits (by decide) (by decide) hc)
  have htext : ∀ c ∈ Nat.toDigits 10 width.toNat ++ 'x' :: Nat.toDigits 10 height.toNat,
      Text.isBlank c = false := by
    intro c hc
    rw [List.mem_append, List.mem_cons] at hc
    rcases hc with hc | rfl | hc
    · exact (hplain hc).1
    · decide
    · exact (hplain hc).1
  have hread (side : UInt32) :
      Natural.read Natural.limit32 (Text.trim (Nat.toDigits 10 side.toNat)) = .ok side.toNat := by
    rw [Text.trim_of_not_blank fun c hc => (hplain hc).1]
    exact Natural.read_toDigits (Nat.le_of_lt_succ side.toNat_lt)
  refine spelled_iff.mpr ⟨_, _, ?_, hread width, hread height, ?_, ?_⟩
  · rw [Text.trim_of_not_blank htext]
    exact Text.cutAt_append (fun c hc => (hplain hc).2) rfl
  · exact fun h => hw (UInt32.toNat_inj.mp h)
  · exact fun h => hh (UInt32.toNat_inj.mp h)

/-- **Sizes are read from their spellings**, and from nothing else: what is read is the width and
the height that the text spells, a text that spells none is refused, and a size is read as it is
written in decimal.  The third part is not a case of the first: that decimal numbers are spellings
of themselves has to be shown, and that no width or height is too large for it. -/
theorem sizes_spelled (text : String) :
    (∀ size, read text = .ok size ↔
      Spelled text.toList size.width.toNat size.height.toNat) ∧
    ((∃ error, read text = .error error) ↔ ¬∃ width height, Spelled text.toList width height) ∧
    ∀ width height : UInt32, width ≠ 0 → height ≠ 0 →
      read (toString width ++ "x" ++ toString height) = .ok ⟨width, height⟩ := by
  refine ⟨fun size => read_eq_ok, ?_, ?_⟩
  · constructor
    · rintro ⟨error, herror⟩ ⟨width, height, hspelled⟩
      obtain ⟨_, _, -, hw, hh, -, -⟩ := spelled_iff.mp hspelled
      have hok : read text = .ok ⟨.ofNat width, .ofNat height⟩ := by
        rw [read_eq_ok]
        dsimp only
        rwa [toNat_ofNat_of_le (Natural.read_eq_ok.mp hw).2,
          toNat_ofNat_of_le (Natural.read_eq_ok.mp hh).2]
      rw [hok] at herror
      cases herror
    · intro hnone
      cases hread : read text with
      | error error => exact ⟨error, rfl⟩
      | ok size => exact absurd ⟨_, _, read_eq_ok.mp hread⟩ hnone
  · intro width height hw hh
    have htext : (toString width ++ "x" ++ toString height).toList =
        Nat.toDigits 10 width.toNat ++ 'x' :: Nat.toDigits 10 height.toNat := by
      rw [String.toList_append, String.toList_append, List.append_assoc]
      exact congrArg₂ (· ++ 'x' :: ·) Nat.toList_repr Nat.toList_repr
    rw [read_eq_ok, htext]
    exact spelled_toDigits hw hh

theorem greatest_width_spelled :
    (4294967295 : UInt32) ≠ 0 ∧ (1 : UInt32) ≠ 0 ∧
      read (toString (4294967295 : UInt32) ++ "x" ++ toString (1 : UInt32)) =
        .ok ⟨4294967295, 1⟩ :=
  ⟨by decide, by decide, (sizes_spelled "4294967295x1").2.2 4294967295 1 (by decide) (by decide)⟩

example : read "\u00a0+0064 X\u2003 32\t" = .ok ⟨64, 32⟩ := by decide

example : read "4294967296x1" = .error (.invalidWidth "4294967296".toList) := by decide

end Size

end ShaderSketch
