import ShaderSketch.Proofs.Lines
import ShaderSketch.Proofs.Punycode

/-!
# Domain names looked up again

The form in which a domain name is looked up is a name again.  If it can be looked up at all, its
form is itself.

## Main definitions

* `Idna.Keeps` — a character that is looked up as it is
* `Idna.Settled` — a label that is looked up as it is, if it can be looked up

## Main results

* `Idna.settled_of_fold?` : a label that was looked up is settled
* `Idna.eq_of_toAscii?` : a name of settled labels is looked up as it is
* `Idna.settled_of_toAscii?` : what a name is looked up as is a name of settled labels
-/

namespace ShaderSketch.Idna

/-! ## Labels -/

/-- A label that is looked up as it is, if it can be looked up.  This is said of one label, since
labels are folded one by one, and nothing that is done to one of them depends on another. -/
def Settled (label : List Char) : Prop :=
  ∀ plain folded, undo? label = some plain → fold? plain = some folded → folded = label

/-- What a label stands for: an encoded label for a text beyond ASCII, and any other for itself. -/
theorem undo?_cases {label plain : List Char} (h : undo? label = some plain) :
    wellFormed plain = true ∧
      (isAscii plain = false ∧ encodedMark.isPrefixOf label = true ∧
          Punycode.decode? (label.drop 4) = some plain ∨
        plain = label ∧ encodedMark.isPrefixOf label = false) := by
  unfold undo? at h
  split at h
  · rename_i hmark
    simp only [Option.bind_eq_bind, Option.bind_eq_some_iff] at h
    obtain ⟨text, htext, h⟩ := h
    split at h
    · rename_i hfine
      obtain rfl := Option.some.inj h
      rw [Bool.and_eq_true, Bool.not_eq_true'] at hfine
      exact ⟨hfine.2, .inl ⟨hfine.1, hmark, htext⟩⟩
    · cases h
  · rename_i hmark
    split at h
    · rename_i hfine
      obtain rfl := Option.some.inj h
      exact ⟨hfine, .inr ⟨rfl, Bool.eq_false_of_not_eq_true hmark⟩⟩
    · cases h

theorem settled_of_ascii {label : List Char} (hascii : isAscii label = true)
    (hmark : encodedMark.isPrefixOf label = false) : Settled label := by
  intro plain folded hundo hfold
  obtain ⟨-, ⟨-, hmark', -⟩ | ⟨rfl, -⟩⟩ := undo?_cases hundo
  · rw [hmark] at hmark'
    cases hmark'
  · rw [fold?, if_pos hascii] at hfold
    exact (Option.some.inj hfold).symm

/-- **A label that was looked up is settled.**  The mark in front of an encoded label is put there
by `fold?` and nothing else: a label that stands for itself has no such mark, so that looking it up
again cannot decode it. -/
theorem settled_of_fold? {source plain label : List Char} (hundo : undo? source = some plain)
    (hfold : fold? plain = some label) : Settled label := by
  have hfolded := hfold
  unfold fold? at hfold
  split at hfold
  · rename_i hascii
    obtain rfl := Option.some.inj hfold
    obtain ⟨-, ⟨hbeyond, -⟩ | ⟨rfl, hmark⟩⟩ := undo?_cases hundo
    · rw [hascii] at hbeyond
      cases hbeyond
    · exact settled_of_ascii hascii hmark
  · obtain ⟨encoded, hencoded, rfl⟩ := Option.map_eq_some_iff.mp hfold
    intro plain' folded hundo' hfold'
    obtain ⟨-, ⟨-, -, hdecoded⟩ | ⟨-, hmark⟩⟩ := undo?_cases hundo'
    · -- the label decodes to what it was encoded from
      obtain rfl : plain' = plain := Punycode.decode?_encode? hencoded hdecoded
      exact Option.some.inj (hfold'.symm.trans hfolded)
    · have hmarked : encodedMark.isPrefixOf (encodedMark ++ encoded) = true := by simp
      rw [hmarked] at hmark
      cases hmark

/-! ## Names -/

/-- A character that is looked up as it is. -/
def Keeps (c : Char) : Prop := c.toNat < 0x80 ∧ status c = .valid

/-- ASCII characters other than capital letters are looked up as they are. -/
theorem keeps_of_ascii {c : Char} (h : c.toNat < 0x80 ∧ ¬(0x41 ≤ c.toNat ∧ c.toNat ≤ 0x5a)) :
    Keeps c :=
  ⟨h.1, by rw [status]; exact if_pos h⟩

theorem mapAll?_of_keeps {s : List Char} (h : ∀ c ∈ s, Keeps c) : mapAll? s = some s := by
  induction s with
  | nil => rfl
  | cons c s ih =>
      rw [List.forall_mem_cons] at h
      rw [mapAll?, h.1.2, ih h.2]
      rfl

theorem compose_of_keeps {s : List Char} (h : ∀ c ∈ s, Keeps c) : compose s = s := by
  have hall : s.all (·.toNat < 0xc0) = true := List.all_eq_true.mpr fun c hc =>
    decide_eq_true (Nat.lt_trans (h c hc).1 (by decide))
  rw [compose, if_pos hall]

/-- Settled labels are looked up as they are. -/
theorem eq_of_mapM {labels plain folded : List (List Char)} (h : ∀ l ∈ labels, Settled l)
    (hundo : labels.mapM undo? = some plain) (hfold : plain.mapM fold? = some folded) :
    folded = labels := by
  induction labels generalizing plain folded with
  | nil =>
      cases hundo
      cases hfold
      rfl
  | cons l labels ih =>
      simp only [List.mapM_cons, Option.bind_eq_bind, Option.bind_eq_some_iff] at hundo
      obtain ⟨p, hp, ps, hps, hplain⟩ := hundo
      cases hplain
      simp only [List.mapM_cons, Option.bind_eq_bind, Option.bind_eq_some_iff] at hfold
      obtain ⟨f, hf, fs, hfs, hfolded⟩ := hfold
      cases hfolded
      rw [List.forall_mem_cons] at h
      rw [h.1 p f hp hf, ih h.2 hps hfs]

/-- **A name of settled labels is looked up as it is**, if it can be looked up.  The characters have
to be settled as well as the labels: a name is mapped and composed as a whole before it is cut at
its dots, and a label by itself does not know of that. -/
theorem eq_of_toAscii? {name ascii : List Char} (hkeeps : ∀ c ∈ name, Keeps c)
    (hsettled : ∀ l ∈ Text.splitOn '.' name, Settled l) (h : toAscii? name = some ascii) :
    ascii = name := by
  simp only [toAscii?, mapAll?_of_keeps hkeeps, Option.bind_eq_bind, Option.bind_some,
    compose_of_keeps hkeeps, Option.bind_eq_some_iff] at h
  obtain ⟨plain, hplain, h⟩ := h
  split at h
  · cases h
  · simp only [Option.bind_eq_some_iff, Option.some.injEq] at h
    obtain ⟨folded, hfolded, rfl⟩ := h
    rw [eq_of_mapM hsettled hplain hfolded, Text.flatten_intersperse_splitOn]

/-- What a label is looked up as holds no dots, and only characters that are looked up as they
are. -/
theorem keeps_of_fold? {source plain label : List Char} (hundo : undo? source = some plain)
    (hfold : fold? plain = some label) : ∀ c ∈ label, c ≠ '.' ∧ Keeps c := by
  have hallowed : ∀ c ∈ plain, c ≠ '.' ∧ status c = .valid := by
    have hwell := (undo?_cases hundo).1
    simp only [wellFormed, allowed, Bool.and_eq_true, List.all_eq_true] at hwell
    intro c hc
    have := hwell.1.1.1 c hc
    exact ⟨by simpa using this.1.2, by simpa using this.2⟩
  unfold fold? at hfold
  split at hfold
  · rename_i hascii
    obtain rfl := Option.some.inj hfold
    intro c hc
    exact ⟨(hallowed c hc).1, by simpa using List.all_eq_true.mp hascii c hc, (hallowed c hc).2⟩
  · obtain ⟨encoded, hencoded, rfl⟩ := Option.map_eq_some_iff.mp hfold
    intro c hc
    obtain hmark | hc := List.mem_append.mp hc
    · have hmarks : ∀ c ∈ encodedMark,
          c ≠ '.' ∧ c.toNat < 0x80 ∧ ¬(0x41 ≤ c.toNat ∧ c.toNat ≤ 0x5a) :=
        List.all_iff_forall_prop.mp (by decide)
      exact ⟨(hmarks c hmark).1, keeps_of_ascii (hmarks c hmark).2⟩
    · obtain ⟨hmem, hsmall⟩ | rfl | ⟨n, hn, rfl⟩ := Punycode.mem_encode? hencoded hc
      · exact ⟨(hallowed c hmem).1, hsmall, (hallowed c hmem).2⟩
      · exact ⟨by decide, keeps_of_ascii (by decide)⟩
      · have hdot : ∀ n < 36, Punycode.digit n ≠ '.' := by decide
        have hdigits : ∀ n < 36, (Punycode.digit n).toNat < 0x80 ∧
            ¬(0x41 ≤ (Punycode.digit n).toNat ∧ (Punycode.digit n).toNat ≤ 0x5a) := by decide
        exact ⟨hdot n hn, keeps_of_ascii (hdigits n hn)⟩

/-- What a name is looked up as: settled labels of characters that are looked up as they are.  With
`eq_of_toAscii?`, which asks for just this, the form of a name is its own form. -/
theorem settled_of_toAscii? {name ascii : List Char} (h : toAscii? name = some ascii) :
    (∀ c ∈ ascii, Keeps c) ∧ ∀ l ∈ Text.splitOn '.' ascii, Settled l := by
  simp only [toAscii?, Option.bind_eq_bind, Option.bind_eq_some_iff] at h
  obtain ⟨mapped, -, plain, hplain, h⟩ := h
  split at h
  · cases h
  · simp only [Option.bind_eq_some_iff, Option.some.injEq] at h
    obtain ⟨folded, hfolded, rfl⟩ := h
    have hsource : ∀ l ∈ folded, ∃ p source, undo? source = some p ∧ fold? p = some l := by
      intro l hl
      obtain ⟨p, hp, hfold⟩ := exists_of_mem_mapM hfolded hl
      obtain ⟨source, -, hundo⟩ := exists_of_mem_mapM hplain hp
      exact ⟨p, source, hundo, hfold⟩
    have hkeeps : ∀ l ∈ folded, ∀ c ∈ l, c ≠ '.' ∧ Keeps c := by
      intro l hl
      obtain ⟨p, source, hundo, hfold⟩ := hsource l hl
      exact keeps_of_fold? hundo hfold
    have hne : folded ≠ [] := by
      rintro rfl
      obtain rfl := eq_nil_of_mapM hfolded
      exact Text.splitOn_ne_nil _ _ (eq_nil_of_mapM hplain)
    have hlabels : Text.splitOn '.' (folded.intersperse ['.']).flatten = folded :=
      Text.splitOn_flatten_intersperse hne fun l hl hdot => (hkeeps l hl _ hdot).1 rfl
    constructor
    · intro c hc
      obtain hdot | ⟨l, hl, hc⟩ := mem_flatten_intersperse hc
      · obtain rfl := List.mem_singleton.mp hdot
        exact ⟨by decide, rfl⟩
      · exact (hkeeps l hl c hc).2
    · intro l hl
      rw [hlabels] at hl
      obtain ⟨p, source, hundo, hfold⟩ := hsource l hl
      exact settled_of_fold? hundo hfold

end ShaderSketch.Idna
