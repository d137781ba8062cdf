import Mathlib.Data.List.Infix
import ShaderSketch.Gl.Brackets
import ShaderSketch.Proofs.Lines

/-!
# Brackets

The syntax check goes through the lines of a source with two counters.  What it finds is said here
of the source itself: no part from its front closes more than it opens, and the whole closes what it
opens.

## Main definitions

* `Gl.Depth.Covers`, `Gl.Nested` — no bracket closes what is not open
* `Gl.Closed` — as many brackets close as open
* `Gl.Depth.After` — the depth behind a text

## Main results

* `Gl.Depth.scan_cases` : reading a text ends at its depth, or at the first bracket that closes
  nothing
* `Gl.Depth.scanLines_of_ok`, `Gl.Depth.scanLines_of_error` : so does reading it line by line, and
  the line is that of the bracket
* `Gl.checkBrackets_of_offence`, `Gl.checkBrackets_of_nested` : what the check says of every source

## Design notes

Depths are natural numbers and so never negative: reading stops where a counter would be.
-/

namespace ShaderSketch.Gl

/-! ## What is open -/

/-- Enough is open for every bracket of a text to close something.  This is the invariant of a
reader that stops at the first bracket which closes nothing: it has not stopped yet. -/
def Depth.Covers (d : Depth) (s : List Char) : Prop :=
  ∀ p, p <+: s → p.count '\x7d' ≤ d.braces + p.count '\x7b' ∧ p.count ')' ≤ d.parens + p.count '('

/-- No part of a text from its front closes more braces or parentheses than it opens. -/
def Nested (s : List Char) : Prop :=
  ∀ p, p <+: s → p.count '\x7d' ≤ p.count '\x7b' ∧ p.count ')' ≤ p.count '('

/-- A text closes as many braces and parentheses as it opens. -/
def Closed (s : List Char) : Prop :=
  s.count '\x7b' = s.count '\x7d' ∧ s.count '(' = s.count ')'

/-- The depth behind a text: what it opens is added, and what it closes is taken off.  Both sides
are sums, so that nothing is lost to subtraction where more is closed than opened. -/
structure Depth.After (d : Depth) (s : List Char) (d' : Depth) : Prop where
  braces : d'.braces + s.count '\x7d' = d.braces + s.count '\x7b'
  parens : d'.parens + s.count ')' = d.parens + s.count '('

namespace Depth

theorem covers_start {s : List Char} : ({} : Depth).Covers s ↔ Nested s := by
  simp [Covers, Nested]

theorem covers_nil (d : Depth) : d.Covers [] := by
  intro p hp
  rw [List.prefix_nil.mp hp]
  simp

/-- One more character is read: the depth behind it is right. -/
theorem after_of_next {d d' : Depth} {c : Char} (h : d.next? c = some d') : d.After [c] d' := by
  unfold next? at h
  split at h
  · obtain rfl := Option.some.inj h
    subst_vars
    exact ⟨rfl, rfl⟩
  split at h
  · split at h
    · cases h
    · rename_i hpos
      obtain rfl := Option.some.inj h
      subst_vars
      exact ⟨Nat.sub_add_cancel (Nat.pos_of_ne_zero hpos), rfl⟩
  split at h
  · obtain rfl := Option.some.inj h
    subst_vars
    exact ⟨rfl, rfl⟩
  split at h
  · split at h
    · cases h
    · rename_i hpos
      obtain rfl := Option.some.inj h
      subst_vars
      exact ⟨rfl, Nat.sub_add_cancel (Nat.pos_of_ne_zero hpos)⟩
  · obtain rfl := Option.some.inj h
    constructor <;> simp [*]

/-- A character that cannot be read is a bracket, of a kind of which none is open. -/
theorem next_eq_none {d : Depth} {c : Char} (h : d.next? c = none) :
    (c = '\x7d' ∧ d.braces = 0) ∨ (c = ')' ∧ d.parens = 0) := by
  unfold next? at h
  grind

/-- What covers a character and the rest covers the rest when the character is read. -/
theorem covers_cons {d : Depth} {c : Char} {s : List Char} :
    d.Covers (c :: s) ↔ ∃ d', d.next? c = some d' ∧ d'.Covers s := by
  constructor
  · intro h
    cases hnext : d.next? c with
    | none =>
        -- the character by itself closes more than is open
        have hc := h [c] ⟨s, rfl⟩
        obtain ⟨rfl, hzero⟩ | ⟨rfl, hzero⟩ := next_eq_none hnext <;> simp [hzero] at hc
    | some d' =>
        have hafter := after_of_next hnext
        refine ⟨d', rfl, fun p hp => ?_⟩
        have hcp := h (c :: p) (List.cons_prefix_cons.mpr ⟨rfl, hp⟩)
        simp only [List.count_cons (l := p)] at hcp
        have hbraces := hafter.braces
        have hparens := hafter.parens
        simp only [List.count_singleton] at hbraces hparens
        omega
  · rintro ⟨d', hnext, hcovers⟩ p hp
    obtain rfl | ⟨q, rfl, hq⟩ := List.prefix_cons_iff.mp hp
    · simp
    · have hafter := after_of_next hnext
      have hrest := hcovers q hq
      have hbraces := hafter.braces
      have hparens := hafter.parens
      simp only [List.count_singleton] at hbraces hparens
      simp only [List.count_cons]
      omega

theorem After.cons {d d' d'' : Depth} {c : Char} {s : List Char} (first : d.After [c] d')
    (rest : d'.After s d'') : d.After (c :: s) d'' := by
  have hbraces := first.braces
  have hparens := first.parens
  have hbraces' := rest.braces
  have hparens' := rest.parens
  simp only [List.count_singleton] at hbraces hparens
  constructor <;> simp only [List.count_cons] <;> omega

/-- **Reading a text** ends at the depth behind it when enough is open for all of it, and at the
first bracket that closes nothing when there is one.  The two cases exclude each other, as the
second has a part from the front that is not covered. -/
theorem scan_cases (d : Depth) (s : List Char) :
    (d.Covers s ∧ ∃ d', d.scan s = .ok d' ∧ d.After s d') ∨
      ∃ p b r d', s = p ++ b :: r ∧ d.Covers p ∧ ¬ d.Covers (p ++ [b]) ∧ d.scan p = .ok d' ∧
        d'.next? b = none := by
  induction s generalizing d with
  | nil => exact .inl ⟨d.covers_nil, d, rfl, ⟨rfl, rfl⟩⟩
  | cons c s ih =>
      cases hnext : d.next? c with
      | none =>
          refine .inr ⟨[], c, s, d, rfl, d.covers_nil, ?_, rfl, hnext⟩
          rw [List.nil_append, covers_cons]
          rintro ⟨d', hd', -⟩
          rw [hnext] at hd'
          cases hd'
      | some d₁ =>
          have hscan (t : List Char) : d.scan (c :: t) = d₁.scan t := by
            rw [scan, hnext]
          have hcovers (t : List Char) : d.Covers (c :: t) ↔ d₁.Covers t := by
            rw [covers_cons, hnext]
            simp
          obtain ⟨hrest, d', hd', hafter⟩ | ⟨p, b, r, d', rfl, hp, hb, hd', hnone⟩ := ih d₁
          · refine .inl ⟨(hcovers s).mpr hrest, d', (hscan s).trans hd', ?_⟩
            exact (after_of_next hnext).cons hafter
          · exact .inr ⟨c :: p, b, r, d', rfl, (hcovers p).mpr hp, mt (hcovers _).mp hb,
              (hscan p).trans hd', hnone⟩

theorem scan_append_of_ok {d d' : Depth} {s : List Char} (h : d.scan s = .ok d') (t : List Char) :
    d.scan (s ++ t) = d'.scan t := by
  induction s generalizing d with
  | nil =>
      obtain rfl := Except.ok.inj h
      rfl
  | cons c s ih =>
      rw [List.cons_append, scan]
      rw [scan] at h
      split at h
      · exact ih h
      · cases h

theorem scan_append_of_error {d : Depth} {s : List Char} {b : Char} (h : d.scan s = .error b)
    (t : List Char) : d.scan (s ++ t) = .error b := by
  induction s generalizing d with
  | nil => cases h
  | cons c s ih =>
      rw [List.cons_append, scan]
      rw [scan] at h
      split at h
      · exact ih h
      · exact h

/-- A text without brackets is read without a trace. -/
theorem scan_of_plain {s : List Char} (h : ∀ c ∈ s, c ∉ ['\x7b', '\x7d', '(', ')']) (d : Depth) :
    d.scan s = .ok d := by
  induction s with
  | nil => rfl
  | cons c s ih =>
      obtain ⟨hc, hs⟩ := List.forall_mem_cons.mp h
      simp only [List.mem_cons, List.not_mem_nil, or_false, not_or] at hc
      rw [scan, next?, if_neg hc.1, if_neg hc.2.1, if_neg hc.2.2.1, if_neg hc.2.2.2]
      exact ih hs

/-! ## Line by line -/

/-- A line without its carriage return is read as the whole line is. -/
theorem scan_dropReturn (d : Depth) (l : List Char) : d.scan (Text.dropReturn l) = d.scan l := by
  unfold Text.dropReturn
  split
  · rename_i hlast
    obtain ⟨front, rfl⟩ := List.getLast?_eq_some_iff.mp hlast
    rw [List.dropLast_concat]
    cases hfront : d.scan front with
    | error b => rw [scan_append_of_error hfront]
    | ok d' => exact (scan_append_of_ok hfront ['\r']).symm
  · rfl

/-- A text that can be read can be read line by line. -/
theorem scanLines_of_ok {d d' : Depth} {s : List Char} (h : d.scan s = .ok d') (line : Nat) :
    d.scanLines line (Text.lines s) = .ok (d', line + (Text.lines s).length) := by
  induction s using Text.lines_induction generalizing d line with
  | last s hs =>
      cases s with
      | nil =>
          obtain rfl := Except.ok.inj h
          rfl
      | cons c s =>
          rw [Text.lines_of_not_mem hs (List.cons_ne_nil _ _), scanLines, h]
          rfl
  | line l s hl ih =>
      rw [Text.lines_append_feed hl, scanLines, scan_dropReturn]
      cases hscan : d.scan l with
      | error b =>
          rw [scan_append_of_error hscan] at h
          cases h
      | ok d₁ =>
          rw [scan_append_of_ok hscan] at h
          -- the line feed itself changes nothing
          change d₁.scan s = .ok d' at h
          dsimp only
          rw [ih h, List.length_cons]
          exact congrArg (fun n => Except.ok (d', n)) (by omega)

/-- Where a text cannot be read any further, it cannot be read line by line either, and the line is
that of the bracket. -/
theorem scanLines_of_error {d d' : Depth} {p r : List Char} {b : Char} (h : d.scan p = .ok d')
    (hb : d'.next? b = none) (line : Nat) :
    d.scanLines line (Text.lines (p ++ b :: r)) =
      .error (.unexpected (line + (p.count '\n' + 1)) b) := by
  have hfeed : b ≠ '\n' := by
    rintro rfl
    obtain ⟨hne, -⟩ | ⟨hne, -⟩ := next_eq_none hb <;> exact absurd hne (by decide)
  have hstop (t : List Char) : d.scan p = .ok d' → d.scan (p ++ b :: t) = .error b := fun h => by
    rw [scan_append_of_ok h, scan, hb]
  induction p using Text.lines_induction generalizing d line with
  | last p hp =>
      -- the bracket stands in the first line of what is left
      have hfirst : ∃ l ls, Text.lines (p ++ b :: r) = l :: ls ∧ d.scan l = .error b := by
        by_cases hr : '\n' ∈ r
        · obtain ⟨l, t, hl, rfl⟩ := Text.exists_line hr
          have hmem : '\n' ∉ p ++ b :: l := by simp [hp, hl, Ne.symm hfeed]
          have hsplit : p ++ b :: (l ++ '\n' :: t) = (p ++ b :: l) ++ '\n' :: t := by simp
          rw [hsplit, Text.lines_append_feed hmem]
          exact ⟨_, _, rfl, (scan_dropReturn d _).trans (hstop l h)⟩
        · have hmem : '\n' ∉ p ++ b :: r := by simp [hp, hr, Ne.symm hfeed]
          exact ⟨_, [], Text.lines_of_not_mem hmem (by simp), hstop r h⟩
      obtain ⟨l, ls, hlines, hscan⟩ := hfirst
      rw [hlines, scanLines, hscan, List.count_eq_zero.mpr hp]
  | line l p hl ih =>
      rw [List.append_assoc, List.cons_append, Text.lines_append_feed hl, scanLines,
        scan_dropReturn]
      cases hscan : d.scan l with
      | error b' =>
          rw [scan_append_of_error hscan] at h
          cases h
      | ok d₁ =>
          rw [scan_append_of_ok hscan] at h
          change d₁.scan p = .ok d' at h
          have hcount : (l ++ '\n' :: p).count '\n' = p.count '\n' + 1 := by
            rw [List.count_append, List.count_eq_zero.mpr hl, List.count_cons_self, Nat.zero_add]
          dsimp only
          rw [ih h _ fun t h => by rw [scan_append_of_ok h, scan, hb], hcount]
          exact congrArg (fun n => Except.error (SyntaxError.unexpected n b)) (by omega)

end Depth

/-! ## The check -/

/-- A bracket that closes nothing: all in front of it is nested, and with it no more.  The two
conditions leave one such place at most, since whatever is in front of a later one is not nested any
more. -/
structure Offence (s p : List Char) (b : Char) (r : List Char) : Prop where
  split : s = p ++ b :: r
  before : Nested p
  here : ¬ Nested (p ++ [b])

/-- A source is nested, or it has a first bracket that closes nothing. -/
theorem nested_or_offence (s : List Char) : Nested s ∨ ∃ p b r, Offence s p b r := by
  obtain ⟨hcovers, -⟩ | ⟨p, b, r, -, rfl, hp, hb, -⟩ := Depth.scan_cases {} s
  · exact .inl (Depth.covers_start.mp hcovers)
  · exact .inr ⟨p, b, r, rfl, Depth.covers_start.mp hp, mt Depth.covers_start.mpr hb⟩

/-- What is nested is read from the start to the depth behind it. -/
theorem Nested.scan {s : List Char} (h : Nested s) :
    ∃ d, Depth.scan {} s = .ok d ∧ Depth.After {} s d := by
  obtain ⟨-, hscan⟩ | ⟨p, b, r, -, rfl, -, hb, -⟩ := Depth.scan_cases {} s
  · exact hscan
  · refine absurd (Depth.covers_start.mpr fun q hq => h q (hq.trans ⟨r, ?_⟩)) hb
    rw [List.append_assoc]
    rfl

/-- What can be read from the start is nested. -/
theorem nested_of_scan {s : List Char} {d : Depth} (h : Depth.scan {} s = .ok d) : Nested s := by
  obtain ⟨hcovers, -⟩ | ⟨p, b, r, d', rfl, -, -, hp, hb⟩ := Depth.scan_cases {} s
  · exact Depth.covers_start.mp hcovers
  · rw [Depth.scan_append_of_ok hp, Depth.scan, hb] at h
    cases h

/-- **A bracket that closes nothing is what the check finds**, with the line that it stands on.
Nothing is asked of what stands behind the bracket: it is not read. -/
theorem checkBrackets_of_offence {s p r : List Char} {b : Char} (h : Offence s p b r) :
    checkBrackets s = .error (.unexpected (p.count '\n' + 1) b) := by
  obtain ⟨d, hd, hafter⟩ := h.before.scan
  have hb : d.next? b = none := by
    cases hnext : d.next? b with
    | none => rfl
    | some d' =>
        refine absurd (nested_of_scan (d := d') ?_) h.here
        rw [Depth.scan_append_of_ok hd, Depth.scan, hnext]
        rfl
  rw [checkBrackets, h.split, Depth.scanLines_of_error hd hb, Nat.zero_add]

/-- The depth behind a text is none just when the text closes what it opens. -/
theorem Depth.After.closed_iff {s : List Char} {d : Depth} (h : Depth.After {} s d) :
    Closed s ↔ d.braces = 0 ∧ d.parens = 0 := by
  have hbraces := h.braces
  have hparens := h.parens
  unfold Closed
  simp only at hbraces hparens
  omega

/-- **What the check says of a source that is nested**: brackets are left open on its last line, or
it does not speak of `main`, or it passes.  So a source that leaves brackets open is refused for
these even if it does not speak of `main` either. -/
theorem checkBrackets_of_nested {s : List Char} (h : Nested s) :
    (¬ Closed s → checkBrackets s = .error (.unclosed (Text.lines s).length)) ∧
      (Closed s → checkBrackets s =
        if Text.contains "main".toList s then .ok () else .error .noMain) := by
  obtain ⟨d, hd, hafter⟩ := h.scan
  have hlines := Depth.scanLines_of_ok hd 0
  rw [Nat.zero_add] at hlines
  rw [hafter.closed_iff, checkBrackets, hlines]
  dsimp only
  constructor
  · intro hopen
    rw [if_pos (by omega)]
    -- the empty text leaves nothing open
    have hne : s ≠ [] := by
      rintro rfl
      obtain rfl := Except.ok.inj hd
      exact hopen ⟨rfl, rfl⟩
    have hpos := List.length_pos_iff.mpr (Text.lines_ne_nil hne)
    exact congrArg (fun n => Except.error (SyntaxError.unclosed n)) (Nat.max_eq_left hpos)
  · rintro ⟨hbraces, hparens⟩
    rw [if_neg (by omega)]

end ShaderSketch.Gl
