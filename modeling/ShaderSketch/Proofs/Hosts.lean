import ShaderSketch.Proofs.Domains
import ShaderSketch.Proofs.Encoding
import ShaderSketch.Proofs.Reread

/-!
# Hosts read again

The text of a host is a host again, and no other than the one that was written: numbers come back
from their decimal parts or hexadecimal groups, and names are looked up as they are.

## Main definitions

* `Url.Ipv4.byte` — a byte of an address
* `Url.Ipv6.Groups.Bounded`, `Url.Ipv6.Whole` — groups that fit into an address, and those of one

## Main results

* `Url.Ipv4.read_render`, `Url.Ipv6.read_render` : the address is read from its text
* `Url.Host.read_render` : the host is read from its text, if that can be read

## Design notes

The text of an address can always be read.  That of a name is supposed to be, since the decoder of
labels refuses numbers that the encoder may write (`Idna.Punycode.decode?_encode?`).
-/

namespace ShaderSketch.Url

/-! ## Four bytes -/

namespace Ipv4

theorem dot_not_mem_toDigits (n : Nat) : '.' ∉ Nat.toDigits 10 n := by
  intro h
  obtain ⟨d, hd, heq⟩ := exists_digitChar_of_mem_toDigits (by decide) h
  exact (by decide : ∀ d < 10, '.' ≠ Nat.digitChar d) d hd heq

/-- A byte of an address, the lowest first. -/
def byte (n k : Nat) : Nat := n / Nat.pow 256 k % 256

/-- The parts of an address are the numbers of its bytes. -/
theorem parts_render (n : Nat) :
    parts (render n) = [3, 2, 1, 0].map fun k => Nat.toDigits 10 (byte n k) := by
  have hsplit : Text.splitOn '.' (render n) =
      [3, 2, 1, 0].map fun k => Nat.toDigits 10 (byte n k) := by
    simp only [render, List.append_assoc, List.cons_append]
    rw [Text.splitOn_append_cons (dot_not_mem_toDigits _),
      Text.splitOn_append_cons (dot_not_mem_toDigits _),
      Text.splitOn_append_cons (dot_not_mem_toDigits _),
      Text.splitOn_of_not_mem (dot_not_mem_toDigits _)]
    rfl
  rw [parts, hsplit]
  exact if_neg (by simp [Nat.toDigits_ne_nil])

/-- The number of a byte has its value. -/
theorem part?_byte (n k : Nat) : part? (Nat.toDigits 10 (byte n k)) = some (byte n k) :=
  (by decide +kernel : ∀ m < 256, part? (Nat.toDigits 10 m) = some m) _
    (Nat.mod_lt _ (by decide))

theorem isNumeric_render (n : Nat) : isNumeric (render n) = true := by
  rw [isNumeric, parts_render]
  simp [part?_byte]

/-- What is read are numbers, of which all but the last are bytes, and the last one fits into the
bytes that are left. -/
theorem read_eq_ok {s : List Char} {n : Nat} :
    read s = .ok n ↔ ∃ front last, (parts s).mapM part? = some (front ++ [last]) ∧
      front.length ≤ 3 ∧ last < 256 ^ (4 - front.length) ∧ (∀ b ∈ front, b ≤ 255) ∧
      n = last + leading 3 front := by
  unfold read
  dsimp only
  cases hparts : (parts s).mapM part? with
  | none => simp
  | some ns =>
      obtain rfl | ⟨front, last, rfl⟩ := List.eq_nil_or_concat' ns
      · simp
      · have hany : front.any (255 < ·) = true ↔ ¬ ∀ b ∈ front, b ≤ 255 := by simp
        simp only [List.getLast?_concat, List.dropLast_concat, List.length_append,
          List.length_singleton, hany, Option.some.injEq, Nat.pow_eq]
        constructor
        · intro h
          split at h
          · cases h
          · split at h
            · cases h
            · split at h
              · cases h
              · rename_i hlength hlast hbytes
                exact ⟨front, last, rfl, by omega, by omega, not_not.mp hbytes,
                  (Except.ok.inj h).symm⟩
        · rintro ⟨front', last', heq, hlength, hlast, hbytes, rfl⟩
          obtain ⟨rfl, rfl⟩ := List.append_inj' heq rfl |>.imp_right List.singleton_inj.mp
          rw [if_neg (by omega), if_neg (by omega), if_neg (not_not.mpr hbytes)]

/-- **An address is read from its text.** -/
theorem read_render {n : Nat} (h : n < 256 ^ 4) : read (render n) = .ok n := by
  have hmap : (parts (render n)).mapM part? =
      some ([byte n 3, byte n 2, byte n 1] ++ [byte n 0]) := by
    rw [parts_render]
    simp [part?_byte]
  have hbyte (k : Nat) : byte n k < 256 := Nat.mod_lt _ (by decide)
  refine read_eq_ok.mpr ⟨_, _, hmap, Nat.le_refl 3, hbyte 0, ?_, ?_⟩
  · have hle (k : Nat) : byte n k ≤ 255 := Nat.le_of_lt_succ (hbyte k)
    exact List.forall_mem_cons.mpr ⟨hle 3, List.forall_mem_cons.mpr
      ⟨hle 2, List.forall_mem_singleton.mpr (hle 1)⟩⟩
  · simp only [leading, byte, Nat.pow_eq]
    omega

/-- The bytes in front leave room for what follows them. -/
theorem leading_add_le {k : Nat} {front : List Nat} (hlength : front.length ≤ k + 1)
    (h : ∀ b ∈ front, b ≤ 255) :
    leading k front + 256 ^ (k + 1 - front.length) ≤ 256 ^ (k + 1) := by
  induction front generalizing k with
  | nil => simp [leading]
  | cons b front ih =>
      rw [List.forall_mem_cons] at h
      rw [List.length_cons] at hlength
      cases k with
      | zero =>
          obtain rfl : front = [] := List.length_eq_zero_iff.mp (by omega)
          simp [leading]
          omega
      | succ k =>
          have hrest := ih (k := k) (by omega) h.2
          have hexponent : k + 1 + 1 - (front.length + 1) = k + 1 - front.length := by omega
          rw [leading, List.length_cons, hexponent, Nat.add_sub_cancel, Nat.pow_eq,
            Nat.pow_succ 256 (k + 1)]
          have hfirst := Nat.mul_le_mul_right (256 ^ (k + 1)) h.1
          omega

/-- An address has four bytes. -/
theorem lt_of_read {s : List Char} {n : Nat} (h : read s = .ok n) : n < 256 ^ 4 := by
  obtain ⟨front, last, -, hlength, hlast, hbytes, rfl⟩ := read_eq_ok.mp h
  have hroom := leading_add_le (k := 3) (by omega) hbytes
  have hfour : 3 + 1 - front.length = 4 - front.length := rfl
  rw [hfour] at hroom
  omega

end Ipv4

/-! ## Eight groups -/

namespace Ipv6

/-- Groups of an address that fit into it.  Reading stops with a ninth group, which is what keeps
`taken` down; the addresses that come out are whole because of this (`Groups.Bounded.finish`). -/
structure Groups.Bounded (g : Groups) : Prop where
  before : ∀ n ∈ g.before, n < 0x10000
  after : ∀ n ∈ g.after, n < 0x10000
  taken : g.taken ≤ 8

theorem Groups.taken_push (g : Groups) (n : Nat) : (g.push n).taken = g.taken + 1 := by
  unfold push
  split <;> simp [taken] <;> omega

/-- A ninth group would be one too many, which is what `htaken` excludes. -/
theorem Groups.Bounded.push {g : Groups} (h : g.Bounded) {n : Nat} (hn : n < 0x10000)
    (htaken : g.taken < 8) : (g.push n).Bounded := by
  have htaken' : (g.push n).taken ≤ 8 := by
    rw [g.taken_push]
    exact htaken
  refine ⟨?_, ?_, htaken'⟩
  · unfold Groups.push
    split
    · exact h.before
    · exact List.forall_mem_append.mpr ⟨h.before, List.forall_mem_singleton.mpr hn⟩
  · unfold Groups.push
    split
    · exact List.forall_mem_append.mpr ⟨h.after, List.forall_mem_singleton.mpr hn⟩
    · exact h.after

/-- Eight groups of 16 bits. -/
def Whole (groups : List Nat) : Prop := groups.length = 8 ∧ ∀ n ∈ groups, n < 0x10000

/-- The gap is filled up with zeros to eight groups. -/
theorem Groups.Bounded.finish {g : Groups} (h : g.Bounded) {groups : List Nat}
    (hfinish : g.finish = .ok groups) : Whole groups := by
  have htaken := h.taken
  unfold Groups.finish at hfinish
  unfold Groups.taken at htaken
  split at hfinish
  · rename_i hgap
    obtain rfl := Except.ok.inj hfinish
    rw [if_pos hgap] at htaken
    refine ⟨?_, ?_⟩
    · simp only [List.length_append, List.length_replicate]
      omega
    · refine List.forall_mem_append.mpr ⟨List.forall_mem_append.mpr ⟨h.before, ?_⟩, h.after⟩
      intro n hn
      rw [(List.mem_replicate.mp hn).2]
      decide
  · split at hfinish
    · rename_i hlength
      obtain rfl := Except.ok.inj hfinish
      exact ⟨hlength, h.before⟩
    · cases hfinish

/-- Each digit is less than the base, so that a number which starts with `value` stays below the
next one with zeros for all its digits. -/
theorem inBase?_lt {b value n : Nat} {s : List Char} (h : Ipv4.inBase? b value s = some n) :
    n < (value + 1) * b ^ s.length := by
  induction s generalizing value with
  | nil =>
      obtain rfl := Option.some.inj h
      simp
  | cons c s ih =>
      rw [Ipv4.inBase?] at h
      split at h
      · split at h
        · rename_i d _ hd
          have hrest := ih h
          have hvalue : value * b + d + 1 ≤ (value + 1) * b := by
            rw [Nat.add_mul]
            omega
          calc n
            _ < (value * b + d + 1) * b ^ s.length := hrest
            _ ≤ (value + 1) * b * b ^ s.length := Nat.mul_le_mul_right _ hvalue
            _ = (value + 1) * b ^ (c :: s).length := by
              rw [List.length_cons, Nat.pow_succ, Nat.mul_assoc, Nat.mul_comm b]
        · cases h
      · cases h

/-- What four digits stand for is a group. -/
theorem value_lt {p : Char → Bool} {s : List Char} :
    (Ipv4.inBase? 16 0 ((s.take 4).takeWhile p)).getD 0 < 0x10000 := by
  have hlength : ((s.take 4).takeWhile p).length ≤ 4 :=
    ((List.takeWhile_prefix p).length_le).trans (List.length_take_le 4 s)
  cases hvalue : Ipv4.inBase? 16 0 ((s.take 4).takeWhile p) with
  | none => decide
  | some n =>
      have hlt := inBase?_lt hvalue
      rw [Nat.zero_add, Nat.one_mul] at hlt
      exact hlt.trans_le (Nat.pow_le_pow_right (by decide) hlength)

/-- What is read as a byte of a dotted end is one. -/
theorem byte?_le {s : List Char} {n : Nat} (h : byte? s = some n) : n ≤ 255 := by
  unfold byte? at h
  split at h
  · cases h
  · cases h
    decide
  · cases h
  · split at h
    · split at h
      · split at h
        · cases h
          assumption
        · cases h
      · cases h
    · cases h

/-- A dotted end makes two groups, of two bytes each. -/
theorem dotted?_lt {s : List Char} {a b : Nat} (h : dotted? s = some (a, b)) :
    a < 0x10000 ∧ b < 0x10000 := by
  unfold dotted? at h
  split at h
  · rename_i w x y z hbytes
    obtain ⟨rfl, rfl⟩ : w * 256 + x = a ∧ y * 256 + z = b := by simpa using h
    have hbyte {n : Nat} (hn : some n ∈ [some w, some x, some y, some z]) : n ≤ 255 := by
      rw [← hbytes] at hn
      obtain ⟨piece, -, hpiece⟩ := List.mem_map.mp hn
      exact byte?_le hpiece
    have hw := hbyte (n := w) (by simp)
    have hx := hbyte (n := x) (by simp)
    have hy := hbyte (n := y) (by simp)
    have hz := hbyte (n := z) (by simp)
    omega
  · cases h

/-- Whatever is read next, a group, a gap or a dotted end, keeps the groups in bounds; the induction
is on the tries. -/
theorem whole_of_readGroups {tries : Nat} {g : Groups} (hg : g.Bounded) {s : List Char}
    {groups : List Nat} (h : readGroups tries g s = .ok groups) : Whole groups := by
  induction tries generalizing g s with
  | zero =>
      cases s with
      | nil =>
          rw [readGroups] at h
          exact hg.finish h
      | cons c s => cases h
  | succ tries ih =>
      cases s with
      | nil =>
          rw [readGroups] at h
          exact hg.finish h
      | cons c s =>
          rw [readGroups] at h
          split at h
          · cases h
          · rename_i htaken
            have hroom : g.taken < 8 := Nat.lt_of_le_of_ne hg.taken htaken
            split at h
            · split at h
              · cases h
              · rename_i hgap
                refine ih (g := { g with gap := true }) ⟨hg.before, hg.after, ?_⟩ h
                rw [Groups.taken, if_neg hgap] at hroom
                exact hroom
            · -- a group: the last one, or with bytes behind it, or with another behind a colon
              have hvalue := value_lt (p := fun c => (Ipv4.digit? c).isSome) (s := c :: s)
              dsimp only at h
              split at h
              · exact (hg.push hvalue hroom).finish h
              · split at h
                · cases h
                · rename_i hbytes
                  split at h
                  · rename_i a b hdotted
                    obtain ⟨ha, hb⟩ := dotted?_lt hdotted
                    have hfirst := hg.push ha hroom
                    refine (hfirst.push hb ?_).finish h
                    rw [g.taken_push]
                    omega
                  · cases h
              · split at h
                · cases h
                · exact ih (hg.push hvalue hroom) h
              · cases h

/-- **What is read are eight groups of 16 bits.**  Writing and reading again asks for just this, so
that an address can be read from its own text without another condition. -/
theorem whole_of_read {s : List Char} {groups : List Nat} (h : read s = .ok groups) :
    Whole groups := by
  have hnone : (⟨[], false, []⟩ : Groups).Bounded := ⟨nofun, nofun, by decide⟩
  have hgap : (⟨[], true, []⟩ : Groups).Bounded := ⟨nofun, nofun, by decide⟩
  unfold read at h
  split at h
  · exact whole_of_readGroups hgap h
  · cases h
  · exact whole_of_readGroups hnone h
  · cases h

/-! ## Groups as they are written -/

/-- The digits of a group. -/
theorem digits_of_mem_toDigits {n : Nat} {c : Char} (h : c ∈ Nat.toDigits 16 n) :
    (Ipv4.digit? c).isSome = true ∧ c ≠ ':' := by
  obtain ⟨d, hd, rfl⟩ := exists_digitChar_of_mem_toDigits (by decide) h
  exact (by decide : ∀ d < 16, (Ipv4.digit? d.digitChar).isSome = true ∧ d.digitChar ≠ ':') d hd

/-- The digits of a group are read up to what follows them. -/
theorem takeWhile_toDigits {n : Nat} (hn : n < 0x10000) (rest : List Char)
    (hrest : ∀ c ∈ rest.head?, (Ipv4.digit? c).isSome = false) :
    ((Nat.toDigits 16 n ++ rest).take 4).takeWhile (fun c => (Ipv4.digit? c).isSome) =
      Nat.toDigits 16 n := by
  have hlength : (Nat.toDigits 16 n).length ≤ 4 :=
    (Nat.length_toDigits_le_iff (by decide) (by decide)).mpr hn
  have hdigits : ∀ c ∈ Nat.toDigits 16 n, (Ipv4.digit? c).isSome = true := fun c hc =>
    (digits_of_mem_toDigits hc).1
  rw [List.take_append, List.take_of_length_le hlength, List.takeWhile_append_of_pos hdigits]
  cases rest with
  | nil => simp
  | cons c rest =>
      have hc : (Ipv4.digit? c).isSome = false := hrest c rfl
      cases 4 - (Nat.toDigits 16 n).length with
      | zero => simp
      | succ k =>
          rw [List.take_succ_cons, List.takeWhile_cons_of_neg (by simp [hc]), List.append_nil]

variable {tries n : Nat} {g : Groups} {rest : List Char}

/-- A group that nothing follows is the last. -/
theorem readGroups_last (hn : n < 0x10000) (htaken : g.taken ≠ 8) :
    readGroups (tries + 1) g (Nat.toDigits 16 n) = (g.push n).finish := by
  obtain ⟨c, ds, hds⟩ := List.exists_cons_of_ne_nil (Nat.toDigits_ne_nil (n := n) (b := 16))
  have hcolon : c ≠ ':' := (digits_of_mem_toDigits (n := n) (by simp [hds])).2
  have hrun := takeWhile_toDigits hn [] nofun
  rw [List.append_nil] at hrun
  rw [hds, readGroups, if_neg htaken, if_neg hcolon, ← hds, hrun]
  simp [inBase?_toDigits]

/-- Behind a group and a colon the reading goes on. -/
theorem readGroups_colon (hn : n < 0x10000) (htaken : g.taken ≠ 8) (hrest : rest ≠ []) :
    readGroups (tries + 1) g (Nat.toDigits 16 n ++ ':' :: rest) =
      readGroups tries (g.push n) rest := by
  obtain ⟨c, ds, hds⟩ := List.exists_cons_of_ne_nil (Nat.toDigits_ne_nil (n := n) (b := 16))
  have hcolon : c ≠ ':' := (digits_of_mem_toDigits (n := n) (by simp [hds])).2
  have hrun := takeWhile_toDigits hn (':' :: rest) (by rintro _ ⟨⟩; rfl)
  rw [hds, List.cons_append, readGroups, if_neg htaken, if_neg hcolon, ← List.cons_append, ← hds,
    hrun]
  dsimp only
  rw [List.drop_left]
  simp [inBase?_toDigits, hrest]

/-- A second colon is the gap. -/
theorem readGroups_gap (htaken : g.taken ≠ 8) (hgap : g.gap = false) :
    readGroups (tries + 1) g (':' :: rest) = readGroups tries { g with gap := true } rest := by
  rw [readGroups, if_neg htaken, if_pos rfl, hgap]
  rfl

theorem renderGroups_cons {n m : Nat} {ns : List Nat} :
    renderGroups (n :: m :: ns) = Nat.toDigits 16 n ++ ':' :: renderGroups (m :: ns) := by
  simp [renderGroups]

theorem renderGroups_singleton (n : Nat) : renderGroups [n] = Nat.toDigits 16 n := by
  simp [renderGroups]

theorem renderGroups_ne_nil {ns : List Nat} (h : ns ≠ []) : renderGroups ns ≠ [] := by
  obtain ⟨n, ns, rfl⟩ := List.exists_cons_of_ne_nil h
  cases ns with
  | nil => simp [renderGroups_singleton]
  | cons m ns => simp [renderGroups_cons]

/-- More groups, one after the other. -/
def Groups.pushAll (g : Groups) (ns : List Nat) : Groups := ns.foldl Groups.push g

theorem Groups.pushAll_before (before ns : List Nat) :
    (⟨before, false, []⟩ : Groups).pushAll ns = ⟨before ++ ns, false, []⟩ := by
  induction ns generalizing before with
  | nil => simp [pushAll]
  | cons n ns ih =>
      have hpush := ih (before ++ [n])
      rw [List.append_assoc] at hpush
      exact hpush

theorem Groups.pushAll_after (before after ns : List Nat) :
    (⟨before, true, after⟩ : Groups).pushAll ns = ⟨before, true, after ++ ns⟩ := by
  induction ns generalizing after with
  | nil => simp [pushAll]
  | cons n ns ih =>
      have hpush := ih (after ++ [n])
      rw [List.append_assoc] at hpush
      exact hpush

/-- **Groups are read as they were written**, at the end of an address.  The tries are the ones that
`readGroups` has left: there must be one for each group, or the reading ends before the groups do.
-/
theorem readGroups_renderGroups {ns : List Nat} (hns : ∀ n ∈ ns, n < 0x10000)
    (htries : ns.length ≤ tries) (htaken : g.taken + ns.length ≤ 8) :
    readGroups tries g (renderGroups ns) = (g.pushAll ns).finish := by
  induction ns generalizing tries g with
  | nil => rw [renderGroups, List.map_nil, List.intersperse_nil, List.flatten_nil, readGroups]; rfl
  | cons n ns ih =>
      rw [List.forall_mem_cons] at hns
      rw [List.length_cons] at htries htaken
      obtain ⟨tries, rfl⟩ := Nat.exists_eq_add_one_of_ne_zero (n := tries) (by omega)
      cases ns with
      | nil =>
          rw [renderGroups_singleton, readGroups_last hns.1 (by omega)]
          rfl
      | cons m ns =>
          rw [renderGroups_cons, readGroups_colon hns.1 (by omega)
            (renderGroups_ne_nil (List.cons_ne_nil m ns))]
          exact ih hns.2 (by omega) (by rw [g.taken_push]; omega)

/-- Groups in front of a gap are read as they were written. -/
theorem readGroups_renderGroups_gap {n : Nat} {ns : List Nat} (hns : ∀ m ∈ n :: ns, m < 0x10000)
    (hgap : g.gap = false) (htaken : g.taken + ns.length < 7) :
    readGroups (tries + (n :: ns).length + 1) g (renderGroups (n :: ns) ++ ':' :: ':' :: rest) =
      readGroups tries { g.pushAll (n :: ns) with gap := true } rest := by
  have hpushed (g : Groups) (n : Nat) (h : g.gap = false) : (g.push n).gap = false := by
    simp [Groups.push, h]
  induction ns generalizing n g with
  | nil =>
      rw [List.forall_mem_singleton] at hns
      rw [List.length_nil] at htaken
      rw [renderGroups_singleton, readGroups_colon hns (by omega) (List.cons_ne_nil _ _)]
      refine readGroups_gap ?_ (hpushed g n hgap)
      rw [g.taken_push]
      omega
  | cons m ns ih =>
      rw [List.forall_mem_cons] at hns
      rw [List.length_cons] at htaken
      rw [renderGroups_cons, List.append_assoc, List.cons_append,
        readGroups_colon hns.1 (by omega) (by simp)]
      exact ih hns.2 (hpushed g n hgap) (by rw [g.taken_push]; omega)

/-! ## The gap -/

/-- The first longest run of zeros is a run of zeros.  What the text leaves out can be put back for
this reason, and it does not matter that no other run is longer. -/
theorem exists_longestRun (place : Nat) (groups : List Nat) :
    ∃ front back, groups = front ++ List.replicate (longestRun place groups).2 0 ++ back ∧
      (longestRun place groups).1 = place + front.length := by
  induction groups generalizing place with
  | nil => exact ⟨[], [], rfl, rfl⟩
  | cons n ns ih =>
      rw [longestRun]
      split
      · have hrun : (n :: ns).takeWhile (· = 0) = List.replicate (zeroRun (n :: ns)) 0 :=
          List.eq_replicate_iff.mpr
            ⟨rfl, fun m hm => by simpa using List.mem_takeWhile_imp hm⟩
        refine ⟨[], (n :: ns).dropWhile (· = 0), ?_, rfl⟩
        rw [List.nil_append, ← hrun, List.takeWhile_append_dropWhile]
      · obtain ⟨front, back, hns, hplace⟩ := ih (place + 1)
        refine ⟨n :: front, back, ?_, ?_⟩
        · rw [List.cons_append, List.cons_append, ← hns]
        · rw [hplace, List.length_cons]
          omega

/-- What starts with a group and a colon starts with no gap. -/
theorem read_toDigits (n : Nat) (rest : List Char) :
    read (Nat.toDigits 16 n ++ ':' :: rest) =
      readGroups 20 ⟨[], false, []⟩ (Nat.toDigits 16 n ++ ':' :: rest) := by
  obtain ⟨c, ds, hds⟩ := List.exists_cons_of_ne_nil (Nat.toDigits_ne_nil (n := n) (b := 16))
  have hcolon : c ≠ ':' := (digits_of_mem_toDigits (n := n) (by simp [hds])).2
  rw [hds, List.cons_append]
  unfold read
  split
  · rename_i heq
    exact absurd (List.cons.inj heq).1 hcolon
  · rename_i heq
    exact absurd (List.cons.inj heq).1 hcolon
  · rfl
  · rename_i hshort
    cases ds with
    | nil => exact absurd rfl (hshort c ':' rest)
    | cons d ds => exact absurd rfl (hshort c d (ds ++ ':' :: rest))

/-- The groups around a gap are read from what stands in front of it and behind it. -/
theorem read_gap {front back : List Nat} (hfront : ∀ n ∈ front, n < 0x10000)
    (hback : ∀ n ∈ back, n < 0x10000) (hlength : front.length + back.length < 7) :
    read (renderGroups front ++ ':' :: ':' :: renderGroups back) =
      .ok (front ++ List.replicate (8 - front.length - back.length) 0 ++ back) := by
  have hbehind (tries : Nat) (htries : 7 ≤ tries) :
      readGroups tries ⟨front, true, []⟩ (renderGroups back) =
        .ok (front ++ List.replicate (8 - front.length - back.length) 0 ++ back) := by
    rw [readGroups_renderGroups hback (by omega) (by simp [Groups.taken]; omega),
      Groups.pushAll_after]
    rfl
  cases front with
  | nil => exact hbehind 20 (by decide)
  | cons n front =>
      have hread : read (renderGroups (n :: front) ++ ':' :: ':' :: renderGroups back) =
          readGroups 20 ⟨[], false, []⟩
            (renderGroups (n :: front) ++ ':' :: ':' :: renderGroups back) := by
        cases front with
        | nil =>
            rw [renderGroups_singleton]
            exact read_toDigits n _
        | cons m front =>
            rw [renderGroups_cons, List.append_assoc]
            exact read_toDigits n _
      rw [List.length_cons] at hlength
      have htries : 20 = (18 - front.length) + (n :: front).length + 1 := by
        rw [List.length_cons]
        omega
      rw [hread, htries, readGroups_renderGroups_gap hfront rfl (by simp [Groups.taken]; omega),
        Groups.pushAll_before]
      exact hbehind _ (by omega)

/-- **An address is read from its text.** -/
theorem read_render {groups : List Nat} (h : Whole groups) : read (render groups) = .ok groups := by
  obtain ⟨front, back, hgroups, hplace⟩ := exists_longestRun 0 groups
  rcases hrun : longestRun 0 groups with ⟨place, length⟩
  rw [hrun] at hgroups hplace
  dsimp only at hgroups hplace
  obtain rfl : place = front.length := by omega
  rw [render, hrun]
  dsimp only
  have hlength : front.length + length + back.length = 8 := by
    rw [← h.1, hgroups]
    simp [Nat.add_assoc]
  split
  · -- nothing is left out, and the first of the eight groups is followed by a colon
    obtain ⟨n, m, ns, hns⟩ : ∃ n m ns, groups = n :: m :: ns := by
      match groups, h.1 with
      | n :: m :: ns, _ => exact ⟨n, m, ns, rfl⟩
    have hread : read (renderGroups groups) =
        readGroups 20 ⟨[], false, []⟩ (renderGroups groups) := by
      rw [hns, renderGroups_cons]
      exact read_toDigits n _
    rw [hread, readGroups_renderGroups h.2 (by rw [h.1]; decide) (by rw [h.1]; decide),
      Groups.pushAll_before, List.nil_append, Groups.finish, if_neg Bool.false_ne_true, if_pos h.1]
  · have hfront : groups.take front.length = front := by
      rw [hgroups, List.append_assoc, List.take_left]
    have hback : groups.drop (front.length + length) = back := by
      rw [hgroups]
      exact List.drop_left' (by simp)
    have hsmall := h.2
    rw [hgroups, List.forall_mem_append, List.forall_mem_append] at hsmall
    have hgap : 8 - front.length - back.length = length := by omega
    rw [hfront, hback, read_gap hsmall.1.1 hsmall.2 (by omega), hgap, ← hgroups]

end Ipv6

/-! ## Hosts -/

namespace Host

/-- Where a percent sign is missing, the bytes of a text are what is written in it. -/
theorem decodeBytes_eq_self {bytes : List UInt8} (h : 0x25 ∉ bytes) :
    Percent.decodeBytes bytes = bytes := by
  induction bytes with
  | nil => rfl
  | cons b bytes ih =>
      rw [List.mem_cons, not_or] at h
      rw [Percent.decodeBytes, ih h.2]
      intro _ _ _ hpercent
      exact absurd hpercent.symm h.1

theorem decode_of_not_mem {s : List Char} (h : '%' ∉ s) :
    Utf8.decode? (Percent.decode s) = some s := by
  have hbytes : (0x25 : UInt8) ∉ Utf8.encode s := fun hmem =>
    h ((Utf8.mem_encode (c := '%') (by decide)).mp hmem)
  rw [Percent.decode, decodeBytes_eq_self hbytes, Utf8.decode?_encode]

/-- What a host is read from: an address in brackets, or the ASCII form of a name, which is an
address if it is numeric. -/
theorem read_cases {s : List Char} {host : Host} (h : Host.read s = .ok host) :
    (∃ inner groups, s = '[' :: (inner ++ [']']) ∧ Ipv6.read inner = .ok groups ∧
        host = .ipv6 groups) ∨
      ∃ text name, Utf8.decode? (Percent.decode s) = some text ∧ Idna.toAscii? text = some name ∧
        name ≠ [] ∧
        (Ipv4.isNumeric name = false ∧ host = .domain name ∨
          Ipv4.isNumeric name = true ∧ ∃ n, Ipv4.read name = .ok n ∧ host = .ipv4 n) := by
  unfold Host.read at h
  split at h
  · rename_i rest
    unfold readBracketed at h
    split at h
    · rename_i hclosed
      obtain ⟨groups, hgroups, rfl⟩ := map_eq_ok_iff.mp h
      refine .inl ⟨rest.dropLast, groups, ?_, hgroups, rfl⟩
      rw [List.dropLast_append_getLast? _ hclosed]
    · cases h
  · split at h
    · cases h
    · cases h
    · rename_i name hne hname
      obtain ⟨text, htext, hascii⟩ := Option.bind_eq_some_iff.mp hname
      refine .inr ⟨text, name, htext, hascii, fun hnil => hne (hnil ▸ rfl), ?_⟩
      split at h
      · rename_i hnumeric
        obtain ⟨n, hn, rfl⟩ := map_eq_ok_iff.mp h
        exact .inr ⟨hnumeric, n, hn, rfl⟩
      · rename_i hnumeric
        exact .inl ⟨by simpa using hnumeric, (Except.ok.inj h).symm⟩

theorem read_ipv6 {groups : List Nat} (h : Ipv6.Whole groups) :
    Host.read (Host.ipv6 groups).render = .ok (.ipv6 groups) := by
  change readBracketed (Ipv6.render groups ++ [']']) = _
  rw [readBracketed, List.getLast?_concat, if_pos rfl, List.dropLast_concat, Ipv6.read_render h]
  rfl

/-- What the text of an address of four bytes holds. -/
theorem mem_render_ipv4 {n : Nat} {c : Char} (h : c ∈ Ipv4.render n) :
    c = '.' ∨ ∃ d < 10, c = Nat.digitChar d := by
  simp only [Ipv4.render, List.mem_append, List.mem_cons] at h
  obtain ((h | h | h) | h | h) | h | h := h
  all_goals first
    | exact .inl h
    | exact .inr (exists_digitChar_of_mem_toDigits (by decide) h)

/-- An address of four bytes is looked up as it is. -/
theorem settled_render_ipv4 (n : Nat) :
    (∀ c ∈ Ipv4.render n, Idna.Keeps c ∧ Idna.forbidden c = false) ∧
      ∀ l ∈ Text.splitOn '.' (Ipv4.render n), Idna.Settled l := by
  have hdigit : ∀ d < 10, (Nat.digitChar d ≠ 'x' ∧ (Nat.digitChar d).toNat < 0x80 ∧
      ¬(0x41 ≤ (Nat.digitChar d).toNat ∧ (Nat.digitChar d).toNat ≤ 0x5a)) ∧
      Idna.forbidden (Nat.digitChar d) = false := by decide
  have hchars : ∀ c ∈ Ipv4.render n, c ≠ 'x' ∧ Idna.Keeps c ∧ Idna.forbidden c = false := by
    intro c hc
    obtain rfl | ⟨d, hd, rfl⟩ := mem_render_ipv4 hc
    · exact ⟨by decide, Idna.keeps_of_ascii (by decide), rfl⟩
    · exact ⟨(hdigit d hd).1.1, Idna.keeps_of_ascii (hdigit d hd).1.2, (hdigit d hd).2⟩
  refine ⟨fun c hc => (hchars c hc).2, fun l hl => ?_⟩
  have hlabel : ∀ c ∈ l, c ≠ 'x' ∧ Idna.Keeps c := fun c hc =>
    ⟨(hchars c (Text.mem_of_mem_splitOn hl hc)).1, (hchars c (Text.mem_of_mem_splitOn hl hc)).2.1⟩
  refine Idna.settled_of_ascii ?_ (Bool.eq_false_of_not_eq_true fun hmark => ?_)
  · exact List.all_eq_true.mpr fun c hc => decide_eq_true (hlabel c hc).2.1
  · have hx : 'x' ∈ l := (List.isPrefixOf_iff_prefix.mp hmark).subset List.mem_cons_self
    exact (hlabel 'x' hx).1 rfl

/-- A name of settled labels is read as a host of that name, if it can be read.  Nothing is said
about names that cannot be read: this is what keeps the lemma, and what follows from it, free of
what the decoder of labels refuses. -/
theorem read_settled {name : List Char} {host : Host} (hkeeps : ∀ c ∈ name, Idna.Keeps c)
    (hsettled : ∀ l ∈ Text.splitOn '.' name, Idna.Settled l)
    (hforbidden : ∀ c ∈ name, Idna.forbidden c = false) (h : Host.read name = .ok host) :
    Ipv4.isNumeric name = false ∧ host = .domain name ∨
      Ipv4.isNumeric name = true ∧ ∃ n, Ipv4.read name = .ok n ∧ host = .ipv4 n := by
  obtain ⟨inner, -, rfl, -⟩ | ⟨text, again, htext, hagain, -, hhost⟩ := read_cases h
  · exact absurd (hforbidden '[' List.mem_cons_self) (by decide)
  · have hpercent : '%' ∉ name := fun hmem => absurd (hforbidden _ hmem) (by decide)
    rw [decode_of_not_mem hpercent] at htext
    obtain rfl := Option.some.inj htext
    obtain rfl := Idna.eq_of_toAscii? hkeeps hsettled hagain
    exact hhost

/-- **The host is read from its text**, if that can be read. -/
theorem read_render {s : List Char} {host host' : Host} (h : Host.read s = .ok host)
    (h' : Host.read host.render = .ok host') : host' = host := by
  obtain ⟨inner, groups, -, hgroups, rfl⟩ | ⟨text, name, -, hascii, -, hhost⟩ := read_cases h
  · rw [read_ipv6 (Ipv6.whole_of_read hgroups)] at h'
    exact (Except.ok.inj h').symm
  · obtain ⟨hnumeric, rfl⟩ | ⟨-, n, hn, rfl⟩ := hhost
    · obtain ⟨hkeeps, hsettled⟩ := Idna.settled_of_toAscii? hascii
      obtain ⟨-, rfl⟩ | ⟨hnumeric', -⟩ :=
        read_settled hkeeps hsettled (Idna.not_forbidden_of_toAscii? hascii) h'
      · rfl
      · rw [hnumeric] at hnumeric'
        cases hnumeric'
    · obtain ⟨hchars, hsettled⟩ := settled_render_ipv4 n
      obtain ⟨hnumeric, -⟩ | ⟨-, n', hn', rfl⟩ := read_settled (fun c hc => (hchars c hc).1)
        hsettled (fun c hc => (hchars c hc).2) h'
      · rw [Ipv4.isNumeric_render] at hnumeric
        cases hnumeric
      · rw [Ipv4.read_render (Ipv4.lt_of_read hn)] at hn'
        exact congrArg Host.ipv4 (Except.ok.inj hn').symm

end Host

end ShaderSketch.Url
