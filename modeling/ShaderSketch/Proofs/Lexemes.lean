import Mathlib.Data.Bool.AllAny
import Mathlib.Data.List.TakeWhile
import ShaderSketch.Json.Number
import ShaderSketch.Proofs.Grammar

/-!
# Reading strings and numbers

The readers of the parts of a JSON text that have no parts themselves, against the grammar.  Each
takes every spelling that it is given, whatever follows, and takes nothing else.

## Main definitions

* `Json.Leaves`, `Json.Yields`, `Json.Fails` — how a reading ends
* `Json.Outcome` — how a reading ends that may be refused
* `Json.Ends` — what can follow a number

## Main results

* `Json.outcome_stringTail`, `Json.pieces_of_stringTail` : strings whose content is needed
* `Json.leaves_skipString`, `Json.pieces_of_skipString` : strings whose content is not needed
* `Json.leaves_skipNumber`, `Json.magnitude_of_skipNumber` : numbers
-/

namespace ShaderSketch.Json

variable {α β : Type} {p : List Char → Prop}

/-! ## How readings end -/

/-- A reading is over, and this is the rest.  What is left comes with a proof about its length,
which the recursion of the readers rests on and which plays no part in the statements here. -/
def Leaves (x : Except Fault (Subtype p)) (r : List Char) : Prop := ∃ h, x = .ok ⟨r, h⟩

/-- A reading is over with a value, and this is the rest. -/
def Yields (x : Except Fault (α × Subtype p)) (a : α) (r : List Char) : Prop :=
  ∃ h, x = .ok (a, ⟨r, h⟩)

/-- A reading is refused. -/
def Fails (x : Except Fault β) : Prop := ∃ f, x = .error f

/-- A reading is over with a value if there is one, and else it is refused.  A string may be spelled
well and still have no content, which is what the second case is for. -/
def Outcome (x : Except Fault (α × Subtype p)) (value : Option α) (r : List Char) : Prop :=
  match value with
  | some a => Yields x a r
  | none => Fails x

theorem leaves_of_eq {x : Except Fault (Subtype p)} {r : List Char} {rest : Subtype p}
    (h : x = .ok rest) (hr : rest.1 = r) : Leaves x r := by
  subst hr
  exact ⟨rest.2, h⟩

/-! ## Blanks -/

theorem isBlank_iff {c : Char} : isBlank c ↔ c ∈ [' ', '\t', '\n', '\r'] := by
  simp only [isBlank, Bool.or_eq_true, decide_eq_true_eq, List.mem_cons, List.not_mem_nil, or_false]
  constructor
  · rintro (((h | h) | h) | h) <;> simp [h]
  · rintro (h | h | h | h) <;> simp [h]

theorem blanks_skipBlank (s : List Char) : Blanks s (skipBlank s) :=
  ⟨s.takeWhile isBlank, fun _ hc => isBlank_iff.mp (List.mem_takeWhile_imp hc),
    List.takeWhile_append_dropWhile.symm⟩

theorem skipBlank_of_blanks {s r : List Char} (h : Blanks s r) : skipBlank s = skipBlank r := by
  obtain ⟨w, hw, rfl⟩ := h
  exact List.dropWhile_append_of_pos fun c hc => isBlank_iff.mpr (hw c hc)

/-- What is not blank is not skipped. -/
theorem skipBlank_cons {c : Char} (h : c ∉ [' ', '\t', '\n', '\r']) (s : List Char) :
    skipBlank (c :: s) = c :: s :=
  List.dropWhile_cons_of_neg (mt isBlank_iff.mp h)

/-! ## Escapes -/

/-- The letters behind a backslash, as the grammar has them. -/
theorem shortEscape?_eq_some {letter c : Char} : shortEscape? letter = some c ↔ Short letter c := by
  unfold Short
  constructor
  · intro h
    unfold shortEscape? at h
    split at h
    case h_9 => cases h
    all_goals
      obtain rfl := Option.some.inj h
      decide
  · simp only [List.mem_cons, Prod.mk.injEq, List.not_mem_nil, or_false]
    rintro (⟨rfl, rfl⟩ | ⟨rfl, rfl⟩ | ⟨rfl, rfl⟩ | ⟨rfl, rfl⟩ | ⟨rfl, rfl⟩ | ⟨rfl, rfl⟩ |
      ⟨rfl, rfl⟩ | ⟨rfl, rfl⟩) <;> rfl

theorem getElem?_digits {c first last : Char} {table : List Char} (start : Nat)
    (htable : ∀ k ∈ List.range (last.toNat + 1 - first.toNat),
      table[start + k]? = some (Char.ofNat (first.toNat + k)))
    (h : first ≤ c ∧ c ≤ last) : table[start + (c.toNat - first.toNat)]? = some c := by
  have hfirst : first.toNat ≤ c.toNat := h.1
  have hlast : c.toNat ≤ last.toNat := h.2
  rw [htable _ (List.mem_range.mpr (by omega)), Nat.add_sub_cancel' hfirst, Char.ofNat_toNat]

/-- The three ranges of hexadecimal digits. -/
theorem hexDigit?_eq_some {c : Char} {n : Nat} : hexDigit? c = some n ↔ Hex c n := by
  constructor
  · intro h
    unfold hexDigit? at h
    split at h
    · rename_i hrange
      obtain rfl := Option.some.inj h
      refine .inl ?_
      rw [← Nat.zero_add (c.toNat - _)]
      exact getElem?_digits 0 (by decide) hrange
    split at h
    · rename_i hrange
      obtain rfl := Option.some.inj h
      exact .inl (Nat.add_comm _ _ ▸ getElem?_digits 10 (by decide) hrange)
    split at h
    · rename_i hrange
      obtain rfl := Option.some.inj h
      exact .inr (Nat.add_comm _ _ ▸ getElem?_digits 10 (by decide) hrange)
    · cases h
  · have hlower : ∀ n ∈ List.range 16,
        ("0123456789abcdef".toList[n]?).bind hexDigit? = some n := by decide
    have hupper : ∀ n ∈ List.range 16,
        ("0123456789ABCDEF".toList[n]?).bind hexDigit? = some n := by decide
    rintro (h | h)
    · obtain ⟨hn, -⟩ := List.getElem?_eq_some_iff.mp h
      have hread := hlower n (List.mem_range.mpr hn)
      rwa [h] at hread
    · obtain ⟨hn, -⟩ := List.getElem?_eq_some_iff.mp h
      have hread := hupper n (List.mem_range.mpr hn)
      rwa [h] at hread

theorem hexValue?_eq_some {a b c d : Char} {n : Nat} {r : List Char} :
    hexValue? a b c d = some n ↔ Quad n (a :: b :: c :: d :: r) r := by
  simp only [hexValue?, Option.bind_eq_bind, Option.bind_eq_some_iff, Option.pure_def,
    Option.some.injEq, hexDigit?_eq_some]
  constructor
  · rintro ⟨i, hi, j, hj, k, hk, l, hl, rfl⟩
    exact .mk hi hj hk hl
  · rintro ⟨hi, hj, hk, hl⟩
    exact ⟨_, hi, _, hj, _, hk, _, hl, rfl⟩

/-- Four digits are read. -/
theorem yields_hexUnit {n : Nat} {s r : List Char} (h : Quad n s r) : Yields (hexUnit s) n r := by
  obtain ⟨hi, hj, hk, hl⟩ := h
  rename_i a b c d i j k l
  have hsize : ¬ Utf8.size (a :: b :: c :: d :: r) < 4 := by
    have hle := Utf8.length_le_size (a :: b :: c :: d :: r)
    simp only [List.length_cons] at hle
    omega
  have hvalue := hexValue?_eq_some.mpr (Quad.mk (r := r) hi hj hk hl)
  unfold hexUnit
  rw [if_neg hsize]
  simp only [hvalue]
  exact ⟨_, rfl⟩

theorem quad_of_hexUnit {n : Nat} {s r : List Char} (h : Yields (hexUnit s) n r) : Quad n s r := by
  obtain ⟨_, h⟩ := h
  unfold hexUnit at h
  split at h
  · cases h
  split at h
  · split at h
    · rename_i hvalue
      cases h
      exact hexValue?_eq_some.mp hvalue
    · cases h
  · cases h

/-- Four digits name one unit. -/
theorem quad_unique {n m : Nat} {s r r' : List Char} (h : Quad n s r) (h' : Quad m s r') :
    n = m ∧ r = r' := by
  obtain ⟨_, hn⟩ := yields_hexUnit h
  obtain ⟨_, hm⟩ := yields_hexUnit h'
  rw [hn] at hm
  cases hm
  exact ⟨rfl, rfl⟩

theorem isLeadUnit_iff {n : Nat} : isLeadUnit n ↔ Lead n := by
  simp [isLeadUnit, Lead]

theorem isTrailUnit_iff {n : Nat} : isTrailUnit n ↔ Trail n := by
  simp [isTrailUnit, Trail]

/-- A unit that is no half of a pair names a character. -/
theorem yields_unitEscape {n : Nat} {s r : List Char} (h : Quad n s r) (lead : ¬ Lead n)
    (trail : ¬ Trail n) : Yields (unitEscape s) (Char.ofNat n) r := by
  obtain ⟨_, hunit⟩ := yields_hexUnit h
  unfold unitEscape
  simp only [hunit]
  rw [if_neg (mt isTrailUnit_iff.mp trail), if_neg (mt isLeadUnit_iff.mp lead)]
  exact ⟨_, rfl⟩

/-- The halves of a pair name a character together. -/
theorem yields_pair {n m : Nat} {s s' r : List Char} (h : Quad n s ('\\' :: 'u' :: s'))
    (h' : Quad m s' r) (lead : Lead n) (trail : Trail m) :
    Yields (unitEscape s) (paired n m) r := by
  obtain ⟨_, hunit⟩ := yields_hexUnit h
  obtain ⟨_, hunit'⟩ := yields_hexUnit h'
  have hlead : ¬ isTrailUnit n := fun htrail => by
    have hrange := isTrailUnit_iff.mp htrail
    unfold Lead at lead
    unfold Trail at hrange
    omega
  have hpair : ofUnits n m = paired n m := congrArg Char.ofNat (by omega)
  unfold unitEscape
  simp only [hunit]
  rw [if_neg hlead, if_pos (isLeadUnit_iff.mpr lead)]
  simp only [hunit', isTrailUnit_iff.mpr trail, if_true, hpair]
  exact ⟨_, rfl⟩

/-- The second half of a pair does not come first. -/
theorem fails_trail {n : Nat} {s r : List Char} (h : Quad n s r) (trail : Trail n) :
    Fails (unitEscape s) := by
  obtain ⟨_, hunit⟩ := yields_hexUnit h
  unfold unitEscape
  simp only [hunit, isTrailUnit_iff.mpr trail, if_true]
  exact ⟨_, rfl⟩

/-- The first half of a pair needs the second one behind it. -/
theorem fails_lead {n : Nat} {s r : List Char} (h : Quad n s r) (lead : Lead n)
    (alone : ∀ m s' r', r = '\\' :: 'u' :: s' → Quad m s' r' → ¬ Trail m) :
    Fails (unitEscape s) := by
  obtain ⟨_, hunit⟩ := yields_hexUnit h
  unfold unitEscape
  simp only [hunit]
  split
  · exact ⟨_, rfl⟩
  rw [if_pos (isLeadUnit_iff.mpr lead)]
  split
  · rename_i s' _
    cases hunit' : hexUnit s' with
    | error f => exact ⟨f, rfl⟩
    | ok found =>
        obtain ⟨m, r', hr'⟩ := found
        have htrail : ¬ isTrailUnit m := fun htrail =>
          alone m s' r' rfl (quad_of_hexUnit ⟨hr', hunit'⟩) (isTrailUnit_iff.mp htrail)
        dsimp only
        rw [if_neg htrail]
        exact ⟨_, rfl⟩
  all_goals exact ⟨_, rfl⟩

theorem yields_escape_short {letter c : Char} (h : Short letter c) (r : List Char) :
    Yields (escape (letter :: r)) c r := by
  unfold Short at h
  simp only [List.mem_cons, Prod.mk.injEq, List.not_mem_nil, or_false] at h
  rcases h with h | h | h | h | h | h | h | h
  all_goals
    obtain ⟨rfl, rfl⟩ := h
    exact ⟨_, rfl⟩

theorem yields_escape_unit {c : Char} {s r : List Char} (h : Yields (unitEscape s) c r) :
    Yields (escape ('u' :: s)) c r := by
  obtain ⟨_, hunit⟩ := h
  simp only [escape, hunit]
  exact ⟨_, rfl⟩

theorem fails_escape_unit {s : List Char} (h : Fails (unitEscape s)) :
    Fails (escape ('u' :: s)) := by
  obtain ⟨f, hunit⟩ := h
  simp only [escape, hunit]
  exact ⟨f, rfl⟩

/-! ## Strings whose content is needed -/

theorem yields_stringTail_end (r : List Char) : Yields (stringTail ('"' :: r)) [] r := by
  rw [stringTail]
  exact ⟨_, rfl⟩

/-- A plain character is put in front of what is read behind it, if that has a content. -/
theorem outcome_stringTail_plain {c : Char} {s r : List Char} {content : Option (List Char)}
    (visible : 0x20 ≤ c.toNat) (unquoted : c ≠ '"') (unescaped : c ≠ '\\')
    (h : Outcome (stringTail s) content r) :
    Outcome (stringTail (c :: s)) (content.map (c :: ·)) r := by
  rw [stringTail]
  · rw [if_neg (Nat.not_lt.mpr visible)]
    cases content with
    | some cs =>
        obtain ⟨_, hrest⟩ := h
        rw [hrest]
        exact ⟨_, rfl⟩
    | none =>
        obtain ⟨f, hrest⟩ := h
        rw [hrest]
        exact ⟨f, rfl⟩
  · exact unquoted
  · exact unescaped

/-- So is one that was escaped. -/
theorem outcome_stringTail_escape {c : Char} {s s' r : List Char} {content : Option (List Char)}
    (hescape : Yields (escape s) c s') (h : Outcome (stringTail s') content r) :
    Outcome (stringTail ('\\' :: s)) (content.map (c :: ·)) r := by
  obtain ⟨_, hescape⟩ := hescape
  rw [stringTail, hescape]
  dsimp only
  cases content with
  | some cs =>
      obtain ⟨_, hrest⟩ := h
      rw [hrest]
      exact ⟨_, rfl⟩
  | none =>
      obtain ⟨f, hrest⟩ := h
      rw [hrest]
      exact ⟨f, rfl⟩

theorem fails_stringTail_escape {s : List Char} (h : Fails (escape s)) :
    Fails (stringTail ('\\' :: s)) := by
  obtain ⟨f, hescape⟩ := h
  rw [stringTail, hescape]
  exact ⟨f, rfl⟩

/-- **A string is read to its content**, and refused if it has none.  A piece that is half of a pair
names no character by itself, and there is a content when each of them has found its other half. -/
theorem outcome_stringTail {ps : List Piece} {s r : List Char} (h : Pieces ps s ('"' :: r)) :
    Outcome (stringTail s) (content? ps) r := by
  fun_induction content? ps generalizing s with
  | case1 =>
      cases h
      exact yields_stringTail_end r
  | case2 c ps ih =>
      cases h with
      | plain visible unquoted unescaped rest =>
          exact outcome_stringTail_plain visible unquoted unescaped (ih rest)
      | short escape rest =>
          exact outcome_stringTail_escape (yields_escape_short escape _) (ih rest)
  | case3 n m ps hpair ih =>
      obtain _ | _ | _ | ⟨hn, _ | _ | _ | ⟨hm, rest⟩⟩ := h
      exact outcome_stringTail_escape (yields_escape_unit (yields_pair hn hm hpair.1 hpair.2))
        (ih rest)
  | case4 n m ps hpair half =>
      obtain _ | _ | _ | ⟨hn, rest⟩ := h
      refine fails_stringTail_escape (fails_escape_unit ?_)
      obtain lead | trail := half
      · -- the unit behind it is not the second half
        obtain _ | _ | _ | ⟨hm, rest⟩ := rest
        refine fails_lead hn lead fun m' s' r' heq hm' trail => hpair ⟨lead, ?_⟩
        obtain rfl := (List.cons.inj (List.cons.inj heq).2).2
        rwa [← (quad_unique hm hm').1] at trail
      · exact fails_trail hn trail
  | case5 n m ps hpair whole ih =>
      obtain _ | _ | _ | ⟨hn, rest⟩ := h
      rw [not_or] at whole
      exact outcome_stringTail_escape (yields_escape_unit (yields_unitEscape hn whole.1 whole.2))
        (ih rest)
  | case6 n ps hnone half =>
      obtain _ | _ | _ | ⟨hn, rest⟩ := h
      refine fails_stringTail_escape (fails_escape_unit ?_)
      obtain lead | trail := half
      · -- no unit is behind it
        refine fails_lead hn lead fun m s' r' heq _ _ => ?_
        subst heq
        cases rest with
        | plain _ _ unescaped _ => exact unescaped rfl
        | short escape _ => simp [Short] at escape
        | unit _ _ => exact hnone _ _ rfl
      · exact fails_trail hn trail
  | case7 n ps hnone whole ih =>
      obtain _ | _ | _ | ⟨hn, rest⟩ := h
      rw [not_or] at whole
      exact outcome_stringTail_escape (yields_escape_unit (yields_unitEscape hn whole.1 whole.2))
        (ih rest)

/-- What was read as one character may be a pair of units, and so there are two pieces then. -/
theorem pieces_of_unitEscape {c : Char} {s r t : List Char} (h : Yields (unitEscape s) c r)
    {ps : List Piece} (rest : Pieces ps r t) : ∃ ps', Pieces ps' ('\\' :: 'u' :: s) t := by
  obtain ⟨_, h⟩ := h
  unfold unitEscape at h
  split at h
  · cases h
  rename_i n r' hr hunit
  have hn : Quad n s r' := quad_of_hexUnit ⟨hr, hunit⟩
  split at h
  · cases h
  split at h
  · split at h
    · split at h
      · cases h
      rename_i s' _ _ m r'' hr' hunit'
      split at h
      · obtain ⟨-, hrest⟩ := Prod.mk.inj (Except.ok.inj h)
        obtain rfl := Subtype.mk.inj hrest
        exact ⟨_, .unit hn (.unit (quad_of_hexUnit ⟨hr', hunit'⟩) rest)⟩
      · cases h
    all_goals cases h
  · cases h
    exact ⟨_, .unit hn rest⟩

/-- An escape is one letter or a unit of four digits. -/
theorem pieces_of_escape {c : Char} {s r t : List Char} (h : Yields (escape s) c r)
    {ps : List Piece} (rest : Pieces ps r t) : ∃ ps', Pieces ps' ('\\' :: s) t := by
  obtain ⟨_, h⟩ := h
  unfold escape at h
  split at h
  · cases h
  · split at h
    · rename_i hunit
      cases h
      exact pieces_of_unitEscape ⟨_, hunit⟩ rest
    · cases h
  · split at h
    · rename_i hshort
      cases h
      exact ⟨_, .short (shortEscape?_eq_some.mp hshort) rest⟩
    · cases h

/-- **Nothing else is read as a string.**  With `outcome_stringTail` this says when a string is
read: if it is, it was one, and then its pieces have a content. -/
theorem pieces_of_stringTail {cs s r : List Char} (h : Yields (stringTail s) cs r) :
    ∃ ps, Pieces ps s ('"' :: r) := by
  induction hn : s.length using Nat.strong_induction_on generalizing s cs with
  | _ n ih =>
      obtain ⟨_, h⟩ := h
      rw [stringTail.eq_def] at h
      split at h
      · cases h
      · cases h
        exact ⟨_, .nil _⟩
      · split at h
        · cases h
        rename_i c s' hs' hescape
        split at h
        · rename_i hrest
          cases h
          obtain ⟨ps, hps⟩ := ih s'.length (by simp at hn; omega) ⟨_, hrest⟩ rfl
          exact pieces_of_escape ⟨_, hescape⟩ hps
        · cases h
      · split at h
        · cases h
        rename_i c s' unquoted unescaped _ visible
        split at h
        · rename_i hrest
          cases h
          obtain ⟨ps, hps⟩ := ih s'.length (by simp at hn; omega) ⟨_, hrest⟩ rfl
          exact ⟨_, .plain (Nat.not_lt.mp visible) unquoted unescaped hps⟩
        · cases h

/-! ## Strings whose content is not needed -/

theorem leaves_skipString_escape {s s' r : List Char} (hescape : Leaves (skipEscape s) s')
    (h : Leaves (skipString s') r) : Leaves (skipString ('\\' :: s)) r := by
  obtain ⟨_, hescape⟩ := hescape
  obtain ⟨_, hrest⟩ := h
  rw [skipString, hescape]
  dsimp only
  rw [hrest]
  exact ⟨_, rfl⟩

theorem leaves_skipString_plain {c : Char} {s r : List Char} (visible : 0x20 ≤ c.toNat)
    (unquoted : c ≠ '"') (unescaped : c ≠ '\\') (h : Leaves (skipString s) r) :
    Leaves (skipString (c :: s)) r := by
  obtain ⟨_, hrest⟩ := h
  rw [skipString]
  · rw [if_neg (Nat.not_lt.mpr visible), hrest]
    exact ⟨_, rfl⟩
  · exact unquoted
  · exact unescaped

theorem leaves_skipEscape_short {letter c : Char} (h : Short letter c) (r : List Char) :
    Leaves (skipEscape (letter :: r)) r := by
  unfold Short at h
  simp only [List.mem_cons, Prod.mk.injEq, List.not_mem_nil, or_false] at h
  rcases h with h | h | h | h | h | h | h | h
  all_goals
    obtain ⟨rfl, rfl⟩ := h
    exact ⟨_, rfl⟩

theorem leaves_skipEscape_unit {n : Nat} {s r : List Char} (h : Quad n s r) :
    Leaves (skipEscape ('u' :: s)) r := by
  obtain ⟨_, hunit⟩ := yields_hexUnit h
  simp only [skipEscape, hunit]
  exact ⟨_, rfl⟩

/-- **Every string is skipped**, whether it has a content or not.  Where a content is not asked for,
none is looked for: a half that stands alone is passed over here and would be refused there. -/
theorem leaves_skipString {ps : List Piece} {s r : List Char} (h : Pieces ps s ('"' :: r)) :
    Leaves (skipString s) r := by
  induction ps generalizing s with
  | nil =>
      cases h
      rw [skipString]
      exact ⟨_, rfl⟩
  | cons piece ps ih =>
      cases h with
      | plain visible unquoted unescaped rest =>
          exact leaves_skipString_plain visible unquoted unescaped (ih rest)
      | short escape rest =>
          exact leaves_skipString_escape (leaves_skipEscape_short escape _) (ih rest)
      | unit escape rest => exact leaves_skipString_escape (leaves_skipEscape_unit escape) (ih rest)

/-- Skipping takes the four digits of a unit without asking whether it is half of a pair. -/
theorem pieces_of_skipEscape {s r t : List Char} (h : Leaves (skipEscape s) r) {ps : List Piece}
    (rest : Pieces ps r t) : ∃ ps', Pieces ps' ('\\' :: s) t := by
  obtain ⟨_, h⟩ := h
  unfold skipEscape at h
  split at h
  · cases h
  · split at h
    · rename_i hunit
      cases h
      exact ⟨_, .unit (quad_of_hexUnit ⟨_, hunit⟩) rest⟩
    · cases h
  · split at h
    · rename_i hshort
      cases h
      exact ⟨_, .short (shortEscape?_eq_some.mp hshort) rest⟩
    · cases h

/-- **Nothing else is skipped as a string.** -/
theorem pieces_of_skipString {s r : List Char} (h : Leaves (skipString s) r) :
    ∃ ps, Pieces ps s ('"' :: r) := by
  induction hn : s.length using Nat.strong_induction_on generalizing s with
  | _ n ih =>
      obtain ⟨_, h⟩ := h
      rw [skipString.eq_def] at h
      split at h
      · cases h
      · cases h
        exact ⟨_, .nil _⟩
      · split at h
        · cases h
        rename_i s' hs' hescape
        split at h
        · rename_i hrest
          cases h
          obtain ⟨ps, hps⟩ := ih s'.length (by simp at hn; omega) ⟨_, hrest⟩ rfl
          exact pieces_of_skipEscape ⟨_, hescape⟩ hps
        · cases h
      · split at h
        · cases h
        rename_i c s' unquoted unescaped _ visible
        split at h
        · rename_i hrest
          cases h
          obtain ⟨ps, hps⟩ := ih s'.length (by simp at hn; omega) ⟨_, hrest⟩ rfl
          exact ⟨_, .plain (Nat.not_lt.mp visible) unquoted unescaped hps⟩
        · cases h

/-! ## Numbers -/

theorem isDigit_iff {c : Char} : isDigit c ↔ Digit c := by
  constructor
  · intro h
    rw [isDigit, Bool.and_eq_true, decide_eq_true_eq, decide_eq_true_eq] at h
    exact List.mem_of_getElem?
      (@getElem?_digits c '0' '9' "0123456789".toList 0 (by decide) h)
  · have hall : ∀ c ∈ "0123456789".toList, isDigit c := List.all_iff_forall_prop.mp (by decide)
    exact hall c

/-- A text that does not go on with a number.  A number has no closing sign, so that what follows it
decides how far it goes. -/
def Ends (s : List Char) : Prop := ∀ c ∈ s.head?, ¬ Digit c ∧ c ∉ ['.', 'e', 'E']

theorem run_dropWhile (s : List Char) : Run s (digitRun s).2 :=
  ⟨s.takeWhile isDigit, fun _ hc => isDigit_iff.mp (List.mem_takeWhile_imp hc),
    List.takeWhile_append_dropWhile.symm⟩

/-- All digits are taken, up to something else. -/
theorem digitRun_of_run {s r : List Char} (h : Run s r) (hr : ∀ c ∈ r.head?, ¬ Digit c) :
    (digitRun s).2 = r := by
  obtain ⟨w, hw, rfl⟩ := h
  rw [digitRun, List.dropWhile_append_of_pos fun c hc => isDigit_iff.mpr (hw c hc)]
  cases r with
  | nil => rfl
  | cons c r => exact List.dropWhile_cons_of_neg (mt isDigit_iff.mp (hr c rfl))

theorem Digits.run {s r : List Char} (h : Digits s r) : Run s r := by
  obtain ⟨first, w, hw, rfl⟩ := h
  exact ⟨_ :: w, List.forall_mem_cons.mpr ⟨first, hw⟩, rfl⟩

theorem Digits.taken {s r : List Char} (h : Digits s r) : ¬ (digitRun s).1.isEmpty := by
  obtain ⟨first, more⟩ := h
  rw [digitRun, List.takeWhile_cons_of_pos (isDigit_iff.mpr first)]
  exact Bool.false_ne_true

/-- A sign is taken if there is one. -/
theorem exponentSign_of_sign {d : Char} {s s' : List Char} (sign : Sign s (d :: s'))
    (first : Digit d) : (exponentSign s).2 = d :: s' := by
  cases sign with
  | none =>
      unfold exponentSign
      split
      · rename_i heq
        obtain ⟨rfl, -⟩ := List.cons.inj heq
        exact absurd first (by decide)
      · rename_i heq
        obtain ⟨rfl, -⟩ := List.cons.inj heq
        exact absurd first (by decide)
      · rfl
  | plus => rfl
  | minus => rfl

/-- An exponent has a digit at least, and takes all the digits that there are. -/
theorem leaves_skipExponent {s s' r : List Char} (sign : Sign s s') (digits : Digits s' r)
    (hr : ∀ c ∈ r.head?, ¬ Digit c) : Leaves (skipExponent s) r := by
  obtain ⟨first, more⟩ := digits
  have hsign := exponentSign_of_sign sign first
  unfold skipExponent
  dsimp only
  split
  · rename_i hnil
    rw [hsign] at hnil
    cases hnil
  · rename_i c t hcons
    rw [hsign] at hcons
    cases hcons
    rw [if_pos (isDigit_iff.mpr first)]
    exact leaves_of_eq rfl (digitRun_of_run more hr)

/-- An exponent, or what follows a number, starts with no digit and no point. -/
theorem Exponent.head {s r : List Char} (h : Exponent s r) (hr : Ends r) :
    ∀ c ∈ s.head?, ¬ Digit c ∧ c ≠ '.' := by
  cases h with
  | none => exact fun c hc => ⟨(hr c hc).1, fun heq => (hr c hc).2 (by simp [heq])⟩
  | some letter sign digits =>
      rintro c ⟨⟩
      simp only [List.mem_cons, List.not_mem_nil, or_false] at letter
      obtain rfl | rfl := letter <;> decide

/-- Behind a fraction an exponent may follow. -/
theorem leaves_skipAfterFraction {s r : List Char} (h : Exponent s r) (hr : Ends r) :
    Leaves (skipAfterFraction s) r := by
  cases h with
  | none =>
      cases s with
      | nil => exact ⟨_, rfl⟩
      | cons c s =>
          have hletter := (hr c rfl).2
          simp only [List.mem_cons, List.not_mem_nil, or_false, not_or] at hletter
          rw [skipAfterFraction, if_neg (not_or.mpr hletter.2)]
          exact ⟨_, rfl⟩
  | some letter sign digits =>
      obtain ⟨_, hexponent⟩ := leaves_skipExponent sign digits fun c hc => (hr c hc).1
      rw [skipAfterFraction, if_pos (by simpa using letter), hexponent]
      exact ⟨_, rfl⟩

/-- Behind the whole part a fraction may follow, and then an exponent. -/
theorem leaves_skipAfterWhole {s s' r : List Char} (fraction : Fraction s s')
    (exponent : Exponent s' r) (hr : Ends r) : Leaves (skipAfterWhole s) r := by
  obtain ⟨_, hrest⟩ := leaves_skipAfterFraction exponent hr
  cases fraction with
  | none =>
      unfold skipAfterWhole
      split
      · exact absurd rfl (exponent.head hr '.' rfl).2
      · exact ⟨_, hrest⟩
  | some digits =>
      have hrun := digitRun_of_run digits.run fun c hc => (exponent.head hr c hc).1
      subst hrun
      rw [skipAfterWhole, if_neg digits.taken, hrest]
      exact ⟨_, rfl⟩

/-- **Every number is skipped.**  Its end is where something stands that cannot belong to it. -/
theorem leaves_skipNumber {s r : List Char} (h : Magnitude s r) (hr : Ends r) :
    Leaves (skipNumber s) r := by
  obtain ⟨whole, fraction, exponent⟩ := h
  rename_i s₁ s₂
  obtain ⟨_, hrest⟩ := leaves_skipAfterWhole fraction exponent hr
  have hnext : ∀ c ∈ s₁.head?, ¬ Digit c := by
    cases fraction with
    | none => exact fun c hc => (exponent.head hr c hc).1
    | some =>
        rintro c ⟨⟩
        decide
  cases whole with
  | zero =>
      have hlone : ¬ (s₁.head?.map isDigit).getD false := by
        cases s₁ with
        | nil => exact Bool.false_ne_true
        | cons c s => exact mt isDigit_iff.mp (hnext c rfl)
      rw [skipNumber, if_neg hlone, hrest]
      exact ⟨_, rfl⟩
  | digits nonzero digits =>
      obtain ⟨first, more⟩ := digits
      rename_i d s
      have hrun := digitRun_of_run more hnext
      subst hrun
      rw [skipNumber]
      · rw [if_pos (isDigit_iff.mpr first)]
        dsimp only
        rw [hrest]
        exact ⟨_, rfl⟩
      · rintro rfl
        exact nonzero rfl

theorem digits_of_digitRun {s : List Char} (h : ¬ (digitRun s).1.isEmpty) :
    Digits s (digitRun s).2 := by
  cases s with
  | nil => exact absurd rfl h
  | cons c s =>
      by_cases hc : isDigit c
      · have hrest : (digitRun (c :: s)).2 = (digitRun s).2 := List.dropWhile_cons_of_pos hc
        rw [hrest]
        exact .mk (isDigit_iff.mp hc) (run_dropWhile s)
      · rw [digitRun, List.takeWhile_cons_of_neg hc] at h
        exact absurd rfl h

theorem sign_exponentSign (s : List Char) : Sign s (exponentSign s).2 := by
  unfold exponentSign
  split
  · exact .plus _
  · exact .minus _
  · exact .none _

/-- What is skipped as an exponent has a digit at least. -/
theorem exponent_of_skipExponent {e : Char} {s r : List Char} (letter : e ∈ ['e', 'E'])
    (h : Leaves (skipExponent s) r) : Exponent (e :: s) r := by
  obtain ⟨_, h⟩ := h
  have sign := sign_exponentSign s
  unfold skipExponent at h
  dsimp only at h
  split at h
  · cases h
  · rename_i c t hcons
    split at h
    · rename_i hdigit
      cases h
      rw [hcons] at sign
      exact .some letter sign (.mk (isDigit_iff.mp hdigit) (run_dropWhile t))
    · cases h

/-- Without the letter of an exponent nothing is taken. -/
theorem exponent_of_skipAfterFraction {s r : List Char} (h : Leaves (skipAfterFraction s) r) :
    Exponent s r := by
  obtain ⟨_, h⟩ := h
  unfold skipAfterFraction at h
  split at h
  · split at h
    · rename_i hletter
      split at h
      · rename_i hexponent
        cases h
        exact exponent_of_skipExponent (by simpa using hletter) ⟨_, hexponent⟩
      · cases h
    · cases h
      exact .none _
  · cases h
    exact .none _

/-- Without a point no fraction is taken. -/
theorem fraction_of_skipAfterWhole {s r : List Char} (h : Leaves (skipAfterWhole s) r) :
    ∃ s', Fraction s s' ∧ Exponent s' r := by
  obtain ⟨_, h⟩ := h
  unfold skipAfterWhole at h
  split at h
  · dsimp only at h
    split at h
    · cases h
    · rename_i hsome
      split at h
      · rename_i hrest
        cases h
        exact ⟨_, .some (digits_of_digitRun hsome), exponent_of_skipAfterFraction ⟨_, hrest⟩⟩
      · cases h
  · exact ⟨_, .none _, exponent_of_skipAfterFraction ⟨_, h⟩⟩

/-- **Nothing else is skipped as a number.**  Nothing is said of what follows: the reader stops
where it cannot go on, and what it took until then was a number. -/
theorem magnitude_of_skipNumber {s r : List Char} (h : Leaves (skipNumber s) r) :
    Magnitude s r := by
  obtain ⟨_, h⟩ := h
  unfold skipNumber at h
  split at h
  · cases h
  · split at h
    · cases h
    · split at h
      · rename_i hrest
        cases h
        obtain ⟨_, fraction, exponent⟩ := fraction_of_skipAfterWhole ⟨_, hrest⟩
        exact .mk (.zero _) fraction exponent
      · cases h
  · rename_i c t nonzero _
    split at h
    · rename_i hdigit
      dsimp only at h
      split at h
      · rename_i hrest
        cases h
        obtain ⟨_, fraction, exponent⟩ := fraction_of_skipAfterWhole ⟨_, hrest⟩
        exact .mk (.digits (fun heq => nonzero (Option.some.inj heq))
          (.mk (isDigit_iff.mp hdigit) (run_dropWhile t))) fraction exponent
      · cases h
    · cases h

end ShaderSketch.Json
