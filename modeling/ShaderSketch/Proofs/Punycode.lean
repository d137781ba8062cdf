import Mathlib.Data.List.TakeWhile
import Mathlib.Tactic.Ring
import ShaderSketch.Proofs.Canonical

/-!
# Encoded labels are decoded

The encoder and the decoder of labels run in step: after each number that is written, the decoder
holds those characters of the text that have been written so far, in the order of the text.  So what
is decoded from an encoded label, if anything is, is the label.

## Main definitions

* `Idna.Punycode.Decoding.Reads` — what the decoder has come to after part of a text
* `Idna.Punycode.Synced` — an encoder and the decoder that has read what it wrote

## Main results

* `Idna.Punycode.reads_number` : a number is read as it was written
* `Idna.Punycode.Synced.pass` : passing a character keeps the two in step
* `Idna.Punycode.decode?_encode?` : what is decoded from an encoded text is the text

## Design notes

The decoder refuses numbers past a bound, which the encoder does not know of.  Therefore nothing is
said of whether a text is decoded, but only of what comes of it then.
-/

namespace ShaderSketch.Idna.Punycode

/-! ## One number -/

theorem digit?_digit {n : Nat} (h : n < 36) : digit? (digit n) = some n :=
  (by decide : ∀ n < 36, digit? (digit n) = some n) n h

/-- After part of a text the decoder has come to another state: whatever it makes of the whole text,
it makes of the rest from there.  It is an implication and not an equation, since the decoder may
refuse what the encoder wrote; what it does not refuse is what this is about. -/
def Decoding.Reads (d : Decoding) (text : List Char) (d' : Decoding) : Prop :=
  ∀ rest out, decodeTail? d (text ++ rest) = some out → decodeTail? d' rest = some out

theorem Decoding.Reads.trans {d d' d'' : Decoding} {text more : List Char} (h : d.Reads text d')
    (h' : d'.Reads more d'') : d.Reads (text ++ more) d'' := by
  intro rest out hout
  rw [List.append_assoc] at hout
  exact h' rest out (h _ out hout)

/-- The state after a number is complete, if its character is one. -/
def Decoding.complete (d : Decoding) (total : Nat) : Decoding :=
  let count := d.output.length + 1
  let place := total % count
  { output := d.output.take place ++ (d.value + total / count) :: d.output.drop place
    place := place + 1
    value := d.value + total / count
    bias := adapt (total - d.place) count (d.place = 0)
    sum := place + 1
    weight := 1
    k := 36 }

theorem Decoding.eq_complete {d d' : Decoding} {total : Nat} (h : d.emit? total = some d') :
    d' = d.complete total := by
  unfold emit? at h
  dsimp only at h
  split at h
  · cases h
  · exact (Option.some.inj h).symm

variable {d : Decoding} {n q : Nat}

/-- A digit below the threshold ends its number. -/
theorem reads_last (h : n < threshold d.k d.bias) :
    d.Reads [digit n] (d.complete (d.sum + n * d.weight)) := by
  intro rest out hout
  have hdigit : digit? (digit n) = some n :=
    digit?_digit (by have := threshold_bounds d.k d.bias; omega)
  simp only [List.singleton_append, decodeTail?, Decoding.step?, hdigit, Option.bind_eq_bind,
    Option.bind_some, if_pos h] at hout
  split at hout
  · cases hout
  · obtain ⟨d', hd', hout⟩ := Option.bind_eq_some_iff.mp hout
    exact d.eq_complete hd' ▸ hout

/-- Another digit goes on with its number. -/
theorem reads_more (h : threshold d.k d.bias ≤ n) (hn : n < 36) :
    d.Reads [digit n]
      { d with
        sum := d.sum + n * d.weight
        weight := d.weight * (36 - threshold d.k d.bias)
        k := d.k + 36 } := by
  intro rest out hout
  simp only [List.singleton_append, decodeTail?, Decoding.step?, digit?_digit hn,
    Option.bind_eq_bind, Option.bind_some, if_neg (Nat.not_lt.mpr h)] at hout
  split at hout
  · cases hout
  · split at hout
    · cases hout
    · exact hout

/-- **A number is read as it was written.**  Each digit but the last makes what is left to write
smaller, so that as many tries as the number itself are enough. -/
theorem reads_number {tries : Nat} (h : q ≤ tries) :
    d.Reads (number d.bias tries q d.k) (d.complete (d.sum + q * d.weight)) := by
  induction tries generalizing d q with
  | zero =>
      have := threshold_bounds d.k d.bias
      exact reads_last (by omega)
  | succ tries ih =>
      have hbounds := threshold_bounds d.k d.bias
      rw [number]
      by_cases hlast : q < threshold d.k d.bias
      · rw [if_pos hlast]
        exact reads_last hlast
      · rw [if_neg hlast]
        obtain ⟨t, ht⟩ : ∃ t, t = threshold d.k d.bias := ⟨_, rfl⟩
        rw [← ht] at hlast hbounds ⊢
        have hdigit := Nat.mod_lt (q - t) (show 0 < 36 - t by omega)
        have hless := Nat.div_le_self (q - t) (36 - t)
        have hmore := reads_more (d := d) (n := t + (q - t) % (36 - t)) (by omega) (by omega)
        have htotal : d.sum + (t + (q - t) % (36 - t)) * d.weight +
            (q - t) / (36 - t) * (d.weight * (36 - t)) = d.sum + q * d.weight := by
          have hparts : q = t + (q - t) % (36 - t) + (36 - t) * ((q - t) / (36 - t)) := by
            have := Nat.mod_add_div (q - t) (36 - t)
            omega
          conv_rhs => rw [hparts]
          ring
        have hrest := ih (d := { d with
          sum := d.sum + (t + (q - t) % (36 - t)) * d.weight
          weight := d.weight * (36 - threshold d.k d.bias)
          k := d.k + 36 }) (q := (q - t) / (36 - t)) (by omega)
        rw [← ht] at hmore hrest
        rw [htotal] at hrest
        exact hmore.trans hrest

/-! ## One character -/

/-- The characters that are written while those of a value are, when some are passed already. -/
def writtenOf (value : Nat) (passed ahead : List Nat) : List Nat :=
  passed.filter (· ≤ value) ++ ahead.filter (· < value)

/-- **An encoder and the decoder that has read what it wrote.**  The characters of a value are
written, when some of the text are passed and the others lie ahead.  The decoder holds what is
written, is between two numbers, and would reach the next place of that value if the number of the
encoder came now.  The last of these says how far the two are apart, counted in places: this is what
the encoder adds up, and what the decoder takes apart again by the count of what was written. -/
structure Synced (start : Decoding) (basic value : Nat) (passed ahead : List Nat) (e : Encoding)
    (d : Decoding) : Prop where
  reads : start.Reads e.output d
  output : d.output = writtenOf value passed ahead
  written : e.written = d.output.length
  enough : basic ≤ e.written
  bias : d.bias = e.bias
  first : d.place = 0 ↔ e.written = basic
  sum : d.sum = d.place
  weight : d.weight = 1
  k : d.k = 36
  reached : d.value ≤ value
  distance : d.place + e.delta =
    (value - d.value) * (e.written + 1) + (passed.filter (· ≤ value)).length

variable {start : Decoding} {basic value : Nat} {passed ahead : List Nat} {e : Encoding}

/-- A number that reaches a place of a value is split into the two. -/
theorem complete_eq {total ranked : Nat} (hvalue : d.value ≤ value)
    (htotal : total = (value - d.value) * (d.output.length + 1) + ranked)
    (hranked : ranked ≤ d.output.length) :
    d.complete total =
      { output := d.output.take ranked ++ value :: d.output.drop ranked
        place := ranked + 1
        value := value
        bias := adapt (total - d.place) (d.output.length + 1) (d.place = 0)
        sum := ranked + 1
        weight := 1
        k := 36 } := by
  have hsplit : total / (d.output.length + 1) = value - d.value ∧
      total % (d.output.length + 1) = ranked := by
    refine (Nat.div_mod_unique (Nat.succ_pos _)).mpr ⟨?_, Nat.lt_succ_of_le hranked⟩
    rw [htotal, Nat.mul_comm, Nat.add_comm]
  rw [Decoding.complete, hsplit.1, hsplit.2, Nat.add_sub_cancel' hvalue]

/-- A character that is written now takes its place behind those that are passed. -/
theorem Synced.pass_self (h : Synced start basic value passed (value :: ahead) e d) :
    ∃ d', Synced start basic value (passed ++ [value]) ahead (e.pass basic value value) d' := by
  have houtput : d.output = passed.filter (· ≤ value) ++ ahead.filter (· < value) := by
    rw [h.output, writtenOf, List.filter_cons_of_neg (by simp)]
  have hlength : (passed.filter (· ≤ value)).length ≤ d.output.length := by
    rw [houtput, List.length_append]
    exact Nat.le_add_right _ _
  have htotal : d.sum + e.delta * d.weight =
      (value - d.value) * (d.output.length + 1) + (passed.filter (· ≤ value)).length := by
    rw [h.sum, h.weight, Nat.mul_one, h.distance, h.written]
  have hcomplete := complete_eq h.reached htotal hlength
  have hnumber := reads_number (d := d) (Nat.le_refl e.delta)
  rw [h.bias, h.k, hcomplete] at hnumber
  have hpass : e.pass basic value value =
      { delta := 0
        bias := adapt e.delta (e.written + 1) (e.written = basic)
        written := e.written + 1
        output := e.output ++ number e.bias e.delta e.delta 36 } := by
    rw [Encoding.pass, if_neg (Nat.lt_irrefl value), if_pos rfl]
  rw [hpass]
  refine ⟨_, h.reads.trans hnumber, ?_, ?_, ?_, ?_, ?_, rfl, rfl, rfl, Nat.le_refl _, ?_⟩
  · rw [houtput, List.take_left, List.drop_left, writtenOf, List.filter_append]
    simp
  · change e.written + 1 = _
    rw [List.length_append, List.length_cons, List.length_take_of_le hlength, List.length_drop,
      h.written]
    omega
  · exact Nat.le_succ_of_le h.enough
  · have hdelta : d.sum + e.delta * d.weight - d.place = e.delta := by
      rw [h.sum, h.weight, Nat.mul_one, Nat.add_sub_cancel_left]
    rw [hdelta, ← h.written, decide_eq_decide.mpr h.first]
  · exact iff_of_false (Nat.succ_ne_zero _) (Nat.lt_succ_of_le h.enough).ne'
  · simp

/-- **Passing a character keeps the two in step.** -/
theorem Synced.pass (h : Synced start basic value passed (n :: ahead) e d) :
    ∃ d', Synced start basic value (passed ++ [n]) ahead (e.pass basic value n) d' := by
  obtain hless | rfl | hmore := Nat.lt_trichotomy n value
  · have hsame : writtenOf value (passed ++ [n]) ahead = writtenOf value passed (n :: ahead) := by
      simp [writtenOf, hless, hless.le]
    refine ⟨d, ?_⟩
    rw [Encoding.pass, if_pos hless]
    refine ⟨h.reads, hsame ▸ h.output, h.written, h.enough, h.bias, h.first, h.sum, h.weight, h.k,
      h.reached, ?_⟩
    simp [hless.le, ← Nat.add_assoc, h.distance]
  · exact h.pass_self
  · have hsame : writtenOf value (passed ++ [n]) ahead = writtenOf value passed (n :: ahead) := by
      simp [writtenOf, hmore, hmore.not_gt]
    refine ⟨d, ?_⟩
    rw [Encoding.pass, if_neg hmore.not_gt, if_neg hmore.ne']
    refine ⟨h.reads, hsame ▸ h.output, h.written, h.enough, h.bias, h.first, h.sum, h.weight, h.k,
      h.reached, ?_⟩
    simp [hmore, h.distance]

/-- Passing a text keeps them in step. -/
theorem Synced.fold (h : Synced start basic value passed ahead e d) :
    ∃ d', Synced start basic value (passed ++ ahead) [] (ahead.foldl (Encoding.pass basic value) e)
      d' := by
  induction ahead generalizing passed e d with
  | nil => exact ⟨d, by simpa using h⟩
  | cons n ahead ih =>
      obtain ⟨d', h'⟩ := h.pass
      obtain ⟨d'', h''⟩ := ih h'
      exact ⟨d'', by simpa using h''⟩

/-! ## All values -/

/-- Between two values, an encoder and the decoder are in step for every text of which no character
lies between the two. -/
theorem Synced.next {s : List Nat} {before : Nat}
    (h : Synced start basic before [] s e d) (hle : before ≤ value)
    (hnone : ∀ n ∈ s, before ≤ n → value ≤ n) :
    Synced start basic value [] s
      { e with delta := e.delta + (value - before) * (e.written + 1) } d := by
  have hsame : writtenOf value [] s = writtenOf before [] s := by
    refine congrArg ([] ++ ·) (List.filter_congr fun n hn => ?_)
    have := hnone n hn
    rw [decide_eq_decide]
    omega
  refine ⟨h.reads, hsame ▸ h.output, h.written, h.enough, h.bias, h.first, h.sum, h.weight, h.k,
    h.reached.trans hle, ?_⟩
  have hdistance := h.distance
  have hreached := h.reached
  have hparts : value - d.value = (before - d.value) + (value - before) := by omega
  simp only [List.filter_nil, List.length_nil, Nat.add_zero] at hdistance ⊢
  rw [hparts, Nat.add_mul, ← Nat.add_assoc, hdistance]

/-- After all characters of a value, they are in step for the values behind it. -/
theorem Synced.after {s : List Nat} (h : Synced start basic value s [] e d) :
    Synced start basic (value + 1) [] s { e with delta := e.delta + 1 } d := by
  have hsame : writtenOf (value + 1) [] s = writtenOf value s [] := by
    simp only [writtenOf, List.filter_nil, List.nil_append, List.append_nil, Nat.lt_succ_iff]
  have hlength : (s.filter (· ≤ value)).length = e.written := by
    rw [h.written, h.output]
    simp [writtenOf]
  refine ⟨h.reads, hsame ▸ h.output, h.written, h.enough, h.bias, h.first, h.sum, h.weight, h.k,
    Nat.le_succ_of_le h.reached, ?_⟩
  have hdistance := h.distance
  have hreached := h.reached
  have hparts : value + 1 - d.value = (value - d.value) + 1 := by omega
  rw [hlength] at hdistance
  simp only [List.filter_nil, List.length_nil, Nat.add_zero]
  rw [hparts, Nat.add_mul, ← Nat.add_assoc, hdistance]
  omega

/-- **What is decoded of all numbers are the characters of the text**, if the values are all that
there are, the least first.  That no value is left out is what `hall` says; the text is complete
then when there are no values any more. -/
theorem Synced.decodeTail? {s values : List Nat} {before : Nat} {out : List Nat}
    (h : Synced start basic before [] s e d) (hsorted : values.Pairwise (· < ·))
    (hbefore : ∀ v ∈ values, before ≤ v) (hall : ∀ n ∈ s, before ≤ n → n ∈ values)
    (hout : decodeTail? start (encodeTail s basic e before values) = some out) : out = s := by
  induction values generalizing e d before with
  | nil =>
      have hrest := h.reads [] out (by rwa [List.append_nil])
      have hwritten : writtenOf before [] s = s := by
        refine List.filter_eq_self.mpr fun n hn => decide_eq_true ?_
        exact Nat.lt_of_not_le fun hle => absurd (hall n hn hle) List.not_mem_nil
      rw [Punycode.decodeTail?, if_pos h.k, h.output, hwritten] at hrest
      exact (Option.some.inj hrest).symm
  | cons value values ih =>
      rw [List.pairwise_cons] at hsorted
      rw [List.forall_mem_cons] at hbefore
      have hnone : ∀ n ∈ s, before ≤ n → value ≤ n := by
        intro n hn hle
        obtain rfl | hmem := List.mem_cons.mp (hall n hn hle)
        · exact Nat.le_refl _
        · exact (hsorted.1 n hmem).le
      obtain ⟨d', h'⟩ := (h.next hbefore.1 hnone).fold
      refine ih h'.after hsorted.2 hsorted.1 (fun n hn hle => ?_) hout
      obtain rfl | hmem := List.mem_cons.mp (hall n hn (by omega))
      · omega
      · exact hmem

/-- The values of a text are in order. -/
theorem pairwise_values (s : List Nat) : (values s).Pairwise (· < ·) := by
  refine pairwise_eraseDups ?_
  have hsorted : ((s.filter (0x80 ≤ ·)).mergeSort).Pairwise fun a b => decide (a ≤ b) = true :=
    List.pairwise_mergeSort (by simp; omega) (by simp; omega) _
  simpa using hsorted

theorem mem_values {s : List Nat} {n : Nat} : n ∈ values s ↔ n ∈ s ∧ 0x80 ≤ n := by
  simp [values, List.mem_eraseDups]

/-! ## Whole labels -/

/-- The ASCII characters in front are found again. -/
theorem splitLast_encode {basic tail : List Char} (htail : ∀ c ∈ tail, c ≠ '-') :
    splitLast ((if basic.isEmpty then [] else basic ++ ['-']) ++ tail) = (basic, tail) := by
  have hall : ∀ c ∈ tail.reverse, decide (c ≠ '-') = true := fun c hc =>
    decide_eq_true (htail c (List.mem_reverse.mp hc))
  unfold splitLast
  cases basic with
  | nil =>
      have htake : tail.reverse.takeWhile (· ≠ '-') = tail.reverse :=
        List.takeWhile_eq_self_iff.mpr hall
      simp only [List.isEmpty_nil, if_true, List.nil_append, htake, List.reverse_reverse]
      rw [if_pos (Nat.le_succ _)]
  | cons c basic =>
      have htext : ((c :: basic) ++ ['-'] ++ tail).reverse =
          tail.reverse ++ '-' :: (c :: basic).reverse := by simp
      have htake : (tail.reverse ++ '-' :: (c :: basic).reverse).takeWhile (· ≠ '-') =
          tail.reverse := by
        rw [List.takeWhile_append_of_pos hall, List.takeWhile_cons_of_neg (by decide),
          List.append_nil]
      simp only [List.isEmpty_cons, Bool.false_eq_true, if_false, htext, htake,
        List.reverse_reverse]
      have hlength : ((c :: basic) ++ ['-'] ++ tail).length = basic.length + 2 + tail.length := by
        simp only [List.length_append, List.length_cons, List.length_nil]
      have hfront : basic.length + 2 + tail.length - tail.length - 1 = (c :: basic).length := by
        rw [List.length_cons]
        omega
      rw [hlength, if_neg (by omega), hfront, List.append_assoc, List.take_left]

/-- The decoder starts in step with the encoder, with the ASCII characters of the text. -/
theorem synced_start (s : List Char) :
    let basic := s.filter (·.toNat < 0x80)
    let d : Decoding := ⟨basic.map Char.toNat, 0, 0x80, 72, 0, 1, 36⟩
    Synced d basic.length 0x80 [] (s.map Char.toNat) ⟨0, 72, basic.length, []⟩ d := by
  intro basic d
  refine ⟨fun _ _ h => h, ?_, ?_, Nat.le_refl _, rfl, ?_, rfl, rfl, rfl, Nat.le_refl _, ?_⟩
  · simp only [d, basic, writtenOf, List.filter_nil, List.nil_append, List.filter_map]
    rfl
  · exact (List.length_map ..).symm
  · exact iff_of_true rfl rfl
  · simp [d]

/-- **What is decoded from an encoded text is the text.**  Both hypotheses are needed: not every
text is encoded, and not every encoded text is decoded. -/
theorem decode?_encode? {s encoded out : List Char} (h : encode? s = some encoded)
    (hout : decode? encoded = some out) : out = s := by
  obtain ⟨basic, hbasic⟩ : ∃ basic, basic = s.filter (·.toNat < 0x80) := ⟨_, rfl⟩
  obtain ⟨tail, htail⟩ : ∃ tail, tail = encodeTail (s.map Char.toNat) basic.length
    ⟨0, 72, basic.length, []⟩ 0x80 (values (s.map Char.toNat)) := ⟨_, rfl⟩
  have hdigits : ∀ c ∈ tail, c ≠ '-' := by
    intro c hc
    obtain ⟨n, hn, rfl⟩ := isDigit_encodeTail (e := ⟨0, 72, basic.length, []⟩)
      (List.forall_mem_nil _) c (htail ▸ hc)
    exact (by decide : ∀ n < 36, digit n ≠ '-') n hn
  have hencoded : (if basic.isEmpty then [] else basic ++ ['-']) ++ tail = encoded := by
    rw [htail, hbasic]
    exact Option.some.inj h
  rw [← hencoded] at hout
  unfold decode? at hout
  rw [splitLast_encode hdigits] at hout
  dsimp only at hout
  split at hout
  · cases hout
  · simp only [Option.bind_eq_bind, Option.bind_eq_some_iff, Option.some.injEq] at hout
    obtain ⟨codes, hcodes, rfl⟩ := hout
    have hstart := synced_start s
    rw [← hbasic] at hstart
    obtain rfl : codes = s.map Char.toNat := hstart.decodeTail? (pairwise_values _)
      (fun v hv => (mem_values.mp hv).2) (fun n hn hle => mem_values.mpr ⟨hn, hle⟩)
      (htail ▸ hcodes)
    rw [List.map_map]
    exact (List.map_congr_left fun c _ => Char.ofNat_toNat c).trans (List.map_id s)

end ShaderSketch.Idna.Punycode
