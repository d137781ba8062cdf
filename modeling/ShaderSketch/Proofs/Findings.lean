import Mathlib.Algebra.Group.Nat.Defs
import ShaderSketch.Proofs.Judgement
import ShaderSketch.Proofs.Results

/-!
# What the syntax check finds

The syntax check counts open braces and open parentheses while it goes through the lines of a
source.  What it says is told here from the source itself: the first bracket that closes nothing,
the end of what is left open, or that `main` is missing.  Counters of 32 bits are enough for this,
as long as the source has less than `2³¹` bytes.

## Main definitions

* `Gl.lastLine` — the number of the last line of a source
* `Gl.Counters` — the counters in words of 32 bits, which wrap
* `Gl.Counters.check` — the check with such counters
* `Gl.Found` — what is said of a source

## Main results

* `Gl.Counters.exact_after` : no counter wraps on the way through a source
* `Gl.Counters.check_eq` : the check finds the same with such counters
* `Gl.found_of_source` : what the check says of every source

## Design notes

A counter in a word may fall below zero, where reading stops; a depth has no such values, and
reading stops in front of them.  Words are compared with depths through the integers: adding and
subtracting commute with the passage to words, so only the tests of a word ask for room in it.
-/

namespace ShaderSketch.Gl

/-! ## The last line -/

/-- The number of the last line of a source.  A line feed at the very end opens no further line, and
the empty source has a first line. -/
def lastLine (s : List Char) : Nat := s.count '\n' + if s.getLast? = some '\n' then 0 else 1

/-- An empty text has no lines, and one that ends with a line feed has no line behind it. -/
theorem length_lines {s : List Char} (hne : s ≠ []) : (Text.lines s).length = lastLine s := by
  induction s using Text.lines_induction with
  | last l hl =>
      have hend : l.getLast? ≠ some '\n' := fun h => hl (List.mem_of_getLast? h)
      rw [Text.lines_of_not_mem hl hne, lastLine, List.count_eq_zero.mpr hl, if_neg hend]
      rfl
  | line l s hl ih =>
      rw [Text.lines_append_feed hl, List.length_cons, lastLine, List.count_append,
        List.count_eq_zero.mpr hl, List.count_cons_self, Nat.zero_add]
      -- a line feed at the very end counts itself and opens no line
      cases s with
      | nil => simp
      | cons c s =>
          rw [ih (List.cons_ne_nil c s), lastLine, List.getLast?_append, List.getLast?_cons_cons,
            List.getLast?_cons]
          exact Nat.add_right_comm _ _ _

/-! ## Counters -/

/-- How many braces and how many parentheses are open, in words of 32 bits. -/
@[ext]
structure Counters where
  braces : Int32 := 0
  parens : Int32 := 0

/-- How much more often one character stands in a text than another. -/
def excess (opening closing : Char) (s : List Char) : Int := s.count opening - s.count closing

namespace Counters

/-- The counters after one more character. -/
def next (k : Counters) (c : Char) : Counters :=
  if c = '\x7b' then { k with braces := k.braces + 1 }
  else if c = '\x7d' then { k with braces := k.braces - 1 }
  else if c = '(' then { k with parens := k.parens + 1 }
  else if c = ')' then { k with parens := k.parens - 1 }
  else k

/-- Whether a counter is below zero. -/
def Negative (k : Counters) : Prop := k.braces < 0 ∨ k.parens < 0

instance (k : Counters) : Decidable k.Negative := inferInstanceAs (Decidable (_ ∨ _))

/-- The counters behind a text. -/
def after (s : List Char) : Counters := s.foldl next {}

/-- The counters after a line, or the character of it that takes one of them below zero. -/
def scan (k : Counters) : List Char → Except Char Counters
  | [] => .ok k
  | c :: s => if (k.next c).Negative then .error c else (k.next c).scan s

/-- The counters and the number of the last line after some more lines. -/
def scanLines (k : Counters) (line : Nat) : List (List Char) → Except SyntaxError (Counters × Nat)
  | [] => .ok (k, line)
  | l :: ls =>
    match k.scan l with
    | .ok k => k.scanLines (line + 1) ls
    | .error bracket => .error (.unexpected (line + 1) bracket)

/-- Whether a source passes, as far as words of 32 bits can tell. -/
def check (source : List Char) : Except SyntaxError Unit :=
  match scanLines {} 0 (Text.lines source) with
  | .error e => .error e
  | .ok (k, line) =>
    if k.braces ≠ 0 ∨ k.parens ≠ 0 then .error (.unclosed (max line 1))
    else if Text.contains "main".toList source then .ok ()
    else .error .noMain

/-! ## Counting in words -/

/-- The words for two integers. -/
def ofInts (braces parens : Int) : Counters := ⟨Int32.ofInt braces, Int32.ofInt parens⟩

/-- One more character, which may wrap a word. -/
theorem next_ofInts (braces parens : Int) (c : Char) : (ofInts braces parens).next c =
    ofInts (braces + excess '\x7b' '\x7d' [c]) (parens + excess '(' ')' [c]) := by
  have hone (n : Int) : Int32.ofInt (n + 1) = Int32.ofInt n + 1 := Int32.ofInt_add n 1
  have hless (n : Int) : Int32.ofInt (n + -1) = Int32.ofInt n - 1 := Int32.ofInt_sub n 1
  unfold next
  split
  · subst_vars
    exact Counters.ext (hone braces).symm (congrArg Int32.ofInt (Int.add_zero parens).symm)
  split
  · subst_vars
    exact Counters.ext (hless braces).symm (congrArg Int32.ofInt (Int.add_zero parens).symm)
  split
  · subst_vars
    exact Counters.ext (congrArg Int32.ofInt (Int.add_zero braces).symm) (hone parens).symm
  split
  · subst_vars
    exact Counters.ext (congrArg Int32.ofInt (Int.add_zero braces).symm) (hless parens).symm
  · simp [excess, *]

theorem excess_concat (opening closing : Char) (s : List Char) (c : Char) :
    excess opening closing (s ++ [c]) = excess opening closing s + excess opening closing [c] := by
  simp only [excess, List.count_append, Int.natCast_add]
  omega

/-- The words behind a text are those of what it opens and does not close. -/
theorem after_eq (s : List Char) :
    after s = ofInts (excess '\x7b' '\x7d' s) (excess '(' ')' s) := by
  induction s using List.reverseRecOn with
  | nil => rfl
  | append_singleton s c ih =>
      rw [after, List.foldl_concat, ← after, ih, next_ofInts, excess_concat, excess_concat]

/-- Counters that are right: no word has wrapped.  A word that has wrapped shows a number too, and a
wrong one, so that this is the only thing that makes a counter worth reading. -/
structure Exact (k : Counters) (s : List Char) : Prop where
  braces : k.braces.toInt = excess '\x7b' '\x7d' s
  parens : k.parens.toInt = excess '(' ')' s

theorem toInt_excess {s : List Char} (h : s.length < 2 ^ 31) (opening closing : Char) :
    (Int32.ofInt (excess opening closing s)).toInt = excess opening closing s := by
  have hopening := List.count_le_length (a := opening) (l := s)
  have hclosing := List.count_le_length (a := closing) (l := s)
  apply Int32.toInt_ofInt_of_le <;> unfold excess <;> omega

/-- **No counter wraps on the way through a short text.**  Each character changes a counter by one
at most, so that the length of the text bounds it from both sides. -/
theorem exact_after {s : List Char} (h : s.length < 2 ^ 31) : (after s).Exact s := by
  rw [after_eq]
  exact ⟨toInt_excess h _ _, toInt_excess h _ _⟩

/-! ## Counters and depths -/

/-- The words for a depth. -/
def ofDepth (d : Depth) : Counters := ofInts d.braces d.parens

/-- A depth from which some more characters can be read without wrapping a word.  One step needs one
character of it, which is how it is handed down from a source to its lines and from a line to its
characters. -/
structure Room (d : Depth) (n : Nat) : Prop where
  braces : d.braces + n < 2 ^ 31
  parens : d.parens + n < 2 ^ 31

variable {d d' : Depth}

theorem next_ofDepth {c : Char} (h : d.next? c = some d') : (ofDepth d).next c = ofDepth d' := by
  have hbraces := (Depth.after_of_next h).braces
  have hparens := (Depth.after_of_next h).parens
  rw [ofDepth, next_ofInts, ofDepth]
  refine congrArg₂ ofInts ?_ ?_ <;> unfold excess <;> omega

theorem toInt_ofDepth {n : Nat} (h : Room d n) :
    (ofDepth d).braces.toInt = d.braces ∧ (ofDepth d).parens.toInt = d.parens := by
  have hbraces := h.braces
  have hparens := h.parens
  constructor <;> apply Int32.toInt_ofInt_of_le <;> omega

theorem not_negative_ofDepth {n : Nat} (h : Room d n) : ¬ (ofDepth d).Negative := by
  obtain ⟨hbraces, hparens⟩ := toInt_ofDepth h
  rw [Negative, Int32.lt_iff_toInt_lt, Int32.lt_iff_toInt_lt, hbraces, hparens, Int32.toInt_zero]
  omega

/-- A bracket that closes nothing takes its counter below zero. -/
theorem negative_next {c : Char} (h : d.next? c = none) : ((ofDepth d).next c).Negative := by
  -- nothing is open, so one less than the counter is one below zero
  obtain ⟨rfl, hzero⟩ | ⟨rfl, hzero⟩ := Depth.next_eq_none h
  · have hless : ((ofDepth d).next '\x7d').braces = Int32.ofInt d.braces - 1 := rfl
    rw [Negative, hless, hzero]
    exact .inl (by decide)
  · have hless : ((ofDepth d).next ')').parens = Int32.ofInt d.parens - 1 := rfl
    rw [Negative, hless, hzero]
    exact .inr (by decide)

theorem Room.next {c : Char} {n : Nat} (h : Room d (n + 1)) (hnext : d.next? c = some d') :
    Room d' n := by
  have hbraces := (Depth.after_of_next hnext).braces
  have hparens := (Depth.after_of_next hnext).parens
  have hopening := List.count_le_length (a := '\x7b') (l := [c])
  have hparen := List.count_le_length (a := '(') (l := [c])
  rw [List.length_singleton] at hopening hparen
  have hroom := h.braces
  have hroom' := h.parens
  constructor <;> omega

theorem Room.scan {s : List Char} {n : Nat} (h : Room d (s.length + n)) (hs : d.scan s = .ok d') :
    Room d' n := by
  induction s generalizing d with
  | nil =>
      obtain rfl := Except.ok.inj hs
      rwa [List.length_nil, Nat.zero_add] at h
  | cons c s ih =>
      rw [List.length_cons, Nat.add_right_comm] at h
      rw [Depth.scan] at hs
      split at hs
      · next hnext => exact ih (h.next hnext) hs
      · cases hs

/-- **A line is read in words as it is read with depths.** -/
theorem scan_ofDepth {s : List Char} {n : Nat} (h : Room d (s.length + n)) :
    (ofDepth d).scan s = (d.scan s).map ofDepth := by
  induction s generalizing d with
  | nil => rfl
  | cons c s ih =>
      rw [List.length_cons, Nat.add_right_comm] at h
      rw [scan, Depth.scan]
      cases hnext : d.next? c with
      | none =>
          rw [if_pos (negative_next hnext)]
          rfl
      | some d₁ =>
          have hroom := h.next hnext
          rw [next_ofDepth hnext, if_neg (not_negative_ofDepth hroom)]
          exact ih hroom

/-- **So is a source, line by line.** -/
theorem scanLines_ofDepth {ls : List (List Char)} {n : Nat} (h : Room d (ls.flatten.length + n))
    (line : Nat) : (ofDepth d).scanLines line ls =
      (d.scanLines line ls).map fun (d', line) => (ofDepth d', line) := by
  induction ls generalizing d line with
  | nil => rfl
  | cons l ls ih =>
      rw [List.flatten_cons, List.length_append, Nat.add_assoc] at h
      rw [scanLines, Depth.scanLines, scan_ofDepth h]
      cases hscan : d.scan l with
      | error b => rfl
      | ok d₁ => exact ih (h.scan hscan) (line + 1)

/-- The room that the lines take up is their length in all, and the rest is left. -/
theorem Room.scanLines {ls : List (List Char)} {n line line' : Nat}
    (h : Room d (ls.flatten.length + n)) (hls : d.scanLines line ls = .ok (d', line')) :
    Room d' n := by
  induction ls generalizing d line with
  | nil =>
      obtain ⟨rfl, rfl⟩ := Prod.mk.inj (Except.ok.inj hls)
      rwa [List.flatten_nil, List.length_nil, Nat.zero_add] at h
  | cons l ls ih =>
      rw [List.flatten_cons, List.length_append, Nat.add_assoc] at h
      rw [Depth.scanLines] at hls
      split at hls
      · next hscan => exact ih (h.scan hscan) hls
      · cases hls

/-- The lines of a text are no longer than the text. -/
theorem length_flatten_lines (s : List Char) : (Text.lines s).flatten.length ≤ s.length := by
  induction s using Text.lines_induction with
  | last l hl =>
      by_cases hne : l = []
      · simp [hne]
      · simp [Text.lines_of_not_mem hl hne]
  | line l s hl ih =>
      have hreturn : (Text.dropReturn l).length ≤ l.length := by
        unfold Text.dropReturn
        split <;> simp
      rw [Text.lines_append_feed hl, List.flatten_cons, List.length_append, List.length_append,
        List.length_cons]
      omega

/-- **The check finds the same in words of 32 bits**, as long as the source is short enough. -/
theorem check_eq {s : List Char} (h : s.length < 2 ^ 31) : check s = checkBrackets s := by
  have hlength := length_flatten_lines s
  have hroom : Room {} ((Text.lines s).flatten.length + 0) := by
    constructor <;> (rw [Nat.zero_add]; omega)
  have hlines : scanLines {} 0 (Text.lines s) = _ := scanLines_ofDepth hroom 0
  rw [check, checkBrackets, hlines]
  cases hscan : Depth.scanLines {} 0 (Text.lines s) with
  | error e => rfl
  | ok result =>
      obtain ⟨d, line⟩ := result
      -- there is room up to the end, so words are zero where depths are
      obtain ⟨hbraces, hparens⟩ := toInt_ofDepth (hroom.scanLines hscan)
      have hopen : ((ofDepth d).braces ≠ 0 ∨ (ofDepth d).parens ≠ 0) ↔
          (d.braces ≠ 0 ∨ d.parens ≠ 0) := by
        rw [Ne, Ne, ← Int32.toInt_inj, ← Int32.toInt_inj, hbraces, hparens, Int32.toInt_zero]
        omega
      simp only [Except.map, hopen]

end Counters

/-! ## What is found -/

/-- What is said of a source.  It passes when no part from its front closes more than it opens, the
whole closes what it opens, and it speaks of `main`.  Else the first bracket that closes nothing is
named with its line, or the last line where something is left open, or that `main` is missing, and
of these the first that applies.  Nesting alone decides the first case, and closing only counts once
nothing was closed too much, which is why the four exclude each other. -/
structure Found (s : List Char) (result : Except String Unit) : Prop where
  passes : result = .ok () ↔ Nested s ∧ Closed s ∧ "main".toList <:+: s
  unexpected : ¬ Nested s → ∃ p b r, Offence s p b r ∧ (b = '\x7d' ∨ b = ')') ∧
    result = .error ("ERROR: 0:" ++ toString (p.count '\n' + 1) ++ ": '" ++ b.toString
      ++ "' : syntax error")
  unclosed : Nested s → ¬ Closed s → result = .error ("ERROR: 0:" ++ toString (lastLine s)
    ++ ": '' : syntax error: unexpected end of file")
  noMain : Nested s → Closed s → ¬ "main".toList <:+: s →
    result = .error "ERROR: 0:1: 'main' : function not defined"

theorem checkBrackets_eq_ok {s : List Char} : checkBrackets s = .ok () ↔ WellFormed s := by
  refine ⟨fun hpasses => ?_, WellFormed.checkBrackets⟩
  by_contra hill
  obtain ⟨e, he⟩ := checkBrackets_of_not_wellFormed hill
  rw [he] at hpasses
  cases hpasses

/-- A first bracket that closes nothing is one that closes. -/
theorem Offence.closes {s p r : List Char} {b : Char} (h : Offence s p b r) :
    b = '\x7d' ∨ b = ')' := by
  obtain ⟨d, hd, -⟩ := h.before.scan
  cases hnext : d.next? b with
  | none => exact (Depth.next_eq_none hnext).imp And.left And.left
  | some d' =>
      -- a bracket that can be read would have left the text nested
      refine absurd (nested_of_scan (d := d') ?_) h.here
      rw [Depth.scan_append_of_ok hd, Depth.scan, hnext]
      rfl

/-- What the check says, in its own words. -/
theorem found_checkBrackets (s : List Char) :
    Found s ((checkBrackets s).mapError SyntaxError.message) where
  passes := by
    rw [mapError_eq_ok_iff, checkBrackets_eq_ok]
    exact ⟨fun ⟨nested, closed, main⟩ => ⟨nested, closed, main⟩,
      fun ⟨nested, closed, main⟩ => ⟨nested, closed, main⟩⟩
  unexpected hviolated := by
    obtain ⟨p, b, r, h⟩ := (nested_or_offence s).resolve_left hviolated
    refine ⟨p, b, r, h, h.closes, ?_⟩
    rw [checkBrackets_of_offence h]
    rfl
  unclosed nested opened := by
    have hne : s ≠ [] := by
      rintro rfl
      exact opened ⟨rfl, rfl⟩
    rw [(checkBrackets_of_nested nested).1 opened, length_lines hne]
    rfl
  noMain nested closed absent := by
    rw [(checkBrackets_of_nested nested).2 closed, if_neg (mt Text.contains_iff.mp absent)]
    rfl

/-- **The check accepts what is nested, closed and speaks of `main`, and reports the first
offence.**  In a source with less than `2³¹` bytes the counters behind every part from its front fit
into words of 32 bits, and the check finds the same with such words.  The length is only there for
the words: what is found is found in a source of any length, by counters that do not end. -/
theorem found_of_source (s : List Char) (hshort : Utf8.size s < 2 ^ 31) :
    Found s ((checkBrackets s).mapError SyntaxError.message) ∧
      (∀ p, p <+: s → (Counters.after p).Exact p) ∧ Counters.check s = checkBrackets s := by
  have hlength : s.length < 2 ^ 31 := Nat.lt_of_le_of_lt (Utf8.length_le_size s) hshort
  exact ⟨found_checkBrackets s,
    fun p hp => Counters.exact_after (Nat.lt_of_le_of_lt hp.length_le hlength),
    Counters.check_eq hlength⟩

/-- Braces and parentheses may cross, but the second parenthesis of the second line closes
nothing. -/
theorem found_of_source_crossed :
    let s := "void main(\x7b\r\n)) \x7d".toList
    Utf8.size s < 2 ^ 31 ∧ Found s (.error "ERROR: 0:2: ')' : syntax error") ∧
      (Counters.after s).parens.toInt = -1 ∧ Counters.check s = .error (.unexpected 2 ')') := by
  intro s
  have hshort : Utf8.size s < 2 ^ 31 := by decide
  obtain ⟨hfound, hexact, hcheck⟩ := found_of_source s hshort
  have hresult : checkBrackets s = .error (.unexpected 2 ')') := by decide
  refine ⟨hshort, ?_, ?_, hcheck.trans hresult⟩
  · rw [hresult] at hfound
    exact hfound
  · rw [(hexact s List.prefix_rfl).parens]
    decide

end ShaderSketch.Gl
