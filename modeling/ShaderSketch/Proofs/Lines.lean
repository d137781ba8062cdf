import Mathlib.Data.List.Infix
import ShaderSketch.Text.Search

/-!
# The lines of a text

A text is read line by line from its front: up to the first line feed, and then the rest.  So what
ends in a line feed can be read apart from what follows it.  Of the pieces between separators that
is so for lists of any kind.

## Main definitions

* `Text.Whole` — a text that is empty or ends in a line feed

## Main results

* `Text.splitOn_append_separator` : a list with a separator in it is cut there
* `Text.splitOn_append` : the last piece of a list goes on with what follows the list
* `Text.flatten_intersperse_splitOn`, `Text.splitOn_flatten_intersperse` : lists are cut into pieces
  and put together again
* `Text.lines_induction` : a text has no line feed, or it is a line and a rest
* `Text.lines_append` : the lines of two texts, the first of which ends its last line
* `Text.infix_append_feed`, `Text.infix_append_of_whole` : a word without line feeds stands on one
  side of a line feed
* `Text.lines_intercalate` : texts that are joined by line feeds are the lines again
-/

namespace ShaderSketch.Text

/-! ## Pieces -/

section Pieces

variable {α : Type} [DecidableEq α] {separator : α} {l s : List α}

theorem splitOn_of_not_mem (h : separator ∉ l) : splitOn separator l = [l] := by
  induction l with
  | nil => rfl
  | cons c l ih =>
      rw [List.mem_cons, not_or] at h
      rw [splitOn, if_neg (Ne.symm h.1), ih h.2]

theorem splitOn_append_cons (h : separator ∉ l) :
    splitOn separator (l ++ separator :: s) = l :: splitOn separator s := by
  induction l with
  | nil => simp [splitOn]
  | cons c l ih =>
      rw [List.mem_cons, not_or] at h
      rw [List.cons_append, splitOn, if_neg (Ne.symm h.1), ih h.2]

theorem splitOn_ne_nil (separator : α) (s : List α) : splitOn separator s ≠ [] := by
  cases s with
  | nil => exact List.cons_ne_nil _ _
  | cons c s =>
      rw [splitOn]
      split
      · exact List.cons_ne_nil _ _
      · split <;> exact List.cons_ne_nil _ _

/-- **What holds of lists without separators, and is kept by a piece in front, holds of every
list.**  It goes by pieces and not by elements, since all that is said of lines is said of a line as
a whole. -/
theorem splitOn_induction (separator : α) {P : List α → Prop} (last : ∀ l, separator ∉ l → P l)
    (piece : ∀ l s, separator ∉ l → P s → P (l ++ separator :: s)) (s : List α) : P s := by
  induction hn : s.length using Nat.strong_induction_on generalizing s with
  | _ n ih =>
      by_cases h : separator ∈ s
      · obtain ⟨l, t, rfl, hl⟩ := List.eq_append_cons_of_mem h
        refine piece l t hl (ih t.length ?_ t rfl)
        simp only [List.length_append, List.length_cons] at hn
        omega
      · exact last s h

/-- A list with a separator in it is cut there. -/
theorem splitOn_append_separator (separator : α) (s t : List α) :
    splitOn separator (s ++ separator :: t) = splitOn separator s ++ splitOn separator t := by
  induction s using splitOn_induction separator with
  | last s hs => rw [splitOn_append_cons hs, splitOn_of_not_mem hs, List.singleton_append]
  | piece l s hl ih =>
      rw [List.append_assoc, List.cons_append, splitOn_append_cons hl, ih, splitOn_append_cons hl,
        List.cons_append]

/-- The last piece of a list goes on with what follows the list. -/
theorem splitOn_append (separator : α) (s t : List α) :
    splitOn separator (s ++ t) = (splitOn separator s).dropLast ++
      splitOn separator ((splitOn separator s).getLast?.getD [] ++ t) := by
  induction s using splitOn_induction separator with
  | last s hs => simp [splitOn_of_not_mem hs]
  | piece l s hl ih =>
      obtain ⟨first, pieces, hpieces⟩ := List.exists_cons_of_ne_nil (splitOn_ne_nil separator s)
      rw [List.append_assoc, List.cons_append, splitOn_append_cons hl, ih, splitOn_append_cons hl,
        hpieces, List.dropLast_cons_cons, List.getLast?_cons_cons, List.cons_append]

/-- The pieces of a list make the list again. -/
theorem flatten_intersperse_splitOn (separator : α) (s : List α) :
    ((splitOn separator s).intersperse [separator]).flatten = s := by
  induction s using splitOn_induction separator with
  | last l hl => simp [splitOn_of_not_mem hl]
  | piece l s hl ih =>
      obtain ⟨first, pieces, hpieces⟩ := List.exists_cons_of_ne_nil (splitOn_ne_nil separator s)
      rw [splitOn_append_cons hl]
      rw [hpieces] at ih ⊢
      rw [List.intersperse_cons_cons, List.flatten_cons, List.flatten_cons, ih,
        List.singleton_append]

/-- Lists without separators are the pieces of what they make. -/
theorem splitOn_flatten_intersperse {ls : List (List α)} (hne : ls ≠ [])
    (h : ∀ l ∈ ls, separator ∉ l) :
    splitOn separator (ls.intersperse [separator]).flatten = ls := by
  induction ls with
  | nil => exact absurd rfl hne
  | cons l ls ih =>
      rw [List.forall_mem_cons] at h
      cases ls with
      | nil => simpa using splitOn_of_not_mem h.1
      | cons l' ls =>
          rw [List.intersperse_cons_cons, List.flatten_cons, List.flatten_cons,
            List.singleton_append, splitOn_append_cons h.1, ih (List.cons_ne_nil _ _) h.2]

/-- What is in a piece is in the list. -/
theorem mem_of_mem_splitOn {piece : List α} {a : α} (hpiece : piece ∈ splitOn separator s)
    (ha : a ∈ piece) : a ∈ s := by
  induction s using splitOn_induction separator with
  | last l hl =>
      rw [splitOn_of_not_mem hl, List.mem_singleton] at hpiece
      exact hpiece ▸ ha
  | piece l s hl ih =>
      rw [splitOn_append_cons hl, List.mem_cons] at hpiece
      obtain rfl | hmem := hpiece
      · exact List.mem_append_left _ ha
      · exact List.mem_append_right _ (List.mem_cons_of_mem _ (ih hmem))

end Pieces

theorem splitLines_of_not_mem {l : List Char} (h : '\n' ∉ l) : splitLines l = [l] :=
  splitOn_of_not_mem h

theorem splitLines_append_feed {l s : List Char} (h : '\n' ∉ l) :
    splitLines (l ++ '\n' :: s) = l :: splitLines s :=
  splitOn_append_cons h

/-- The pieces of two texts with a line feed between them. -/
theorem splitLines_append (s t : List Char) :
    splitLines (s ++ '\n' :: t) = splitLines s ++ splitLines t :=
  splitOn_append_separator '\n' s t

theorem splitLines_ne_nil (s : List Char) : splitLines s ≠ [] := splitOn_ne_nil '\n' s

/-! ## Lines -/

@[simp] theorem lines_nil : lines [] = [] := rfl

theorem lines_of_not_mem {l : List Char} (h : '\n' ∉ l) (hne : l ≠ []) : lines l = [l] := by
  unfold lines
  rw [splitLines_of_not_mem h]
  cases l with
  | nil => exact absurd rfl hne
  | cons c l => rfl

/-- The first line of a text is what stands in front of its first line feed. -/
theorem lines_append_feed {l s : List Char} (h : '\n' ∉ l) :
    lines (l ++ '\n' :: s) = dropReturn l :: lines s := by
  unfold lines
  rw [splitLines_append_feed h]
  obtain ⟨piece, pieces, hpieces⟩ := List.exists_cons_of_ne_nil (splitLines_ne_nil s)
  rw [hpieces]
  simp only [List.dropLast_cons_cons, List.map_cons, List.getLast?_cons_cons]
  cases hlast : (piece :: pieces).getLast? with
  | none => rfl
  | some last => cases last <;> rfl

/-- A text that has a line feed is a line and a rest. -/
theorem exists_line {s : List Char} (h : '\n' ∈ s) :
    ∃ l t, '\n' ∉ l ∧ s = l ++ '\n' :: t := by
  obtain ⟨l, t, rfl, hl⟩ := List.eq_append_cons_of_mem h
  exact ⟨l, t, hl, rfl⟩

/-- **What holds of texts without line feeds, and is kept by a line in front, holds of every
text.** -/
theorem lines_induction {P : List Char → Prop} (last : ∀ l, '\n' ∉ l → P l)
    (line : ∀ l s, '\n' ∉ l → P s → P (l ++ '\n' :: s)) (s : List Char) : P s :=
  splitOn_induction '\n' last line s

theorem lines_ne_nil {s : List Char} (h : s ≠ []) : lines s ≠ [] := by
  by_cases hmem : '\n' ∈ s
  · obtain ⟨l, t, hl, rfl⟩ := exists_line hmem
    rw [lines_append_feed hl]
    exact List.cons_ne_nil _ _
  · rw [lines_of_not_mem hmem h]
    exact List.cons_ne_nil _ _

/-! ## Texts one after the other -/

/-- A text that ends every line that it begins. -/
def Whole (s : List Char) : Prop := s = [] ∨ ∃ t, s = t ++ ['\n']

theorem Whole.tail {c : Char} {s : List Char} (h : Whole (c :: s)) : Whole s := by
  obtain hnil | ⟨t, ht⟩ := h
  · cases hnil
  · cases t with
    | nil => exact .inl (List.cons.inj ht).2
    | cons d t => exact .inr ⟨t, (List.cons.inj ht).2⟩

/-- The end of whole lines ends every line that it begins. -/
theorem Whole.of_append {l s : List Char} (h : Whole (l ++ s)) : Whole s := by
  induction l with
  | nil => exact h
  | cons c l ih => exact ih h.tail

/-- **Whole lines are read by themselves.**  A part that ends within a line is no good for this: the
line would go on in what follows. -/
theorem lines_append {s : List Char} (h : Whole s) (t : List Char) :
    lines (s ++ t) = lines s ++ lines t := by
  induction s using lines_induction with
  | last s hs =>
      obtain rfl | ⟨s, rfl⟩ := h
      · rfl
      · simp at hs
  | line first s hfirst ih =>
      rw [List.append_assoc, List.cons_append, lines_append_feed hfirst,
        lines_append_feed hfirst, List.cons_append]
      exact congrArg _ (ih (Whole.of_append h).tail)

/-- The last line of a text loses nothing but a carriage return when it is ended. -/
theorem lines_end {s l : List Char} (hs : Whole s) (hl : '\n' ∉ l) (hne : l ≠ []) :
    lines (s ++ l) = lines s ++ [l] ∧ lines (s ++ l ++ ['\n']) = lines s ++ [dropReturn l] := by
  rw [List.append_assoc, lines_append hs, lines_append hs, lines_of_not_mem hl hne,
    lines_append_feed hl, lines_nil]
  exact ⟨rfl, rfl⟩

/-- Every text is whole lines and a last line that is not ended. -/
theorem exists_whole (s : List Char) : ∃ front l, Whole front ∧ '\n' ∉ l ∧ s = front ++ l := by
  induction s using lines_induction with
  | last s hs => exact ⟨[], s, .inl rfl, hs, rfl⟩
  | line first s hfirst ih =>
      obtain ⟨front, l, hfront, hl, rfl⟩ := ih
      refine ⟨first ++ '\n' :: front, l, .inr ?_, hl, by simp⟩
      obtain rfl | ⟨t, rfl⟩ := hfront
      · exact ⟨first, rfl⟩
      · exact ⟨first ++ '\n' :: t, by simp⟩

/-- A text whose last line is not ended has as many lines when it is. -/
theorem length_lines_end {s : List Char} (h : ¬ Whole s) :
    (lines (s ++ ['\n'])).length = (lines s).length := by
  obtain ⟨front, l, hfront, hl, rfl⟩ := exists_whole s
  have hne : l ≠ [] := by
    rintro rfl
    rw [List.append_nil] at h
    exact h hfront
  obtain ⟨hopen, hended⟩ := lines_end hfront hl hne
  rw [hopen, hended, List.length_append, List.length_append]
  rfl

/-! ## Words -/

/-- A text that occurs in another is an infix of it. -/
theorem contains_iff {needle s : List Char} : contains needle s ↔ needle <:+: s := by
  induction s with
  | nil => simp [contains]
  | cons c s ih =>
      rw [contains, Bool.or_eq_true, List.isPrefixOf_iff_prefix, ih, List.infix_cons_iff]

/-- **A word without line feeds stands in front of a line feed or behind it.**  Without the
condition the word could lie across the line feed, and then it would stand in neither. -/
theorem infix_append_feed {word s t : List Char} (h : '\n' ∉ word) :
    word <:+: s ++ '\n' :: t ↔ word <:+: s ∨ word <:+: t := by
  constructor
  · induction s with
    | nil =>
        rw [List.nil_append, List.infix_cons_iff]
        rintro (hstart | hinfix)
        · -- what starts with a line feed is not the word, unless that is empty
          cases word with
          | nil => exact .inl (List.nil_infix)
          | cons c word =>
              obtain ⟨rfl, -⟩ := List.cons_prefix_cons.mp hstart
              exact absurd List.mem_cons_self h
        · exact .inr hinfix
    | cons c s ih =>
        rw [List.cons_append, List.infix_cons_iff]
        rintro (hstart | hinfix)
        · refine .inl (List.IsPrefix.isInfix ?_)
          -- the word is too short to reach the line feed
          obtain hshort | hlong := List.prefix_or_prefix_of_prefix hstart
            (show (c :: s) ++ ['\n'] <+: c :: (s ++ '\n' :: t) from ⟨t, by simp⟩)
          · obtain heq | hproper := List.prefix_concat_iff.mp hshort
            · rw [heq] at h
              simp at h
            · exact hproper
          · exact absurd (hlong.subset (by simp)) h
        · obtain hs | ht := ih hinfix
          · exact .inl (hs.trans (List.suffix_cons c s).isInfix)
          · exact .inr ht
  · rintro (hs | ht)
    · exact hs.trans (List.prefix_append s _).isInfix
    · exact ht.trans ⟨s ++ ['\n'], [], by simp⟩

/-- A word without line feeds stands in whole lines or behind them. -/
theorem infix_append_of_whole {word s t : List Char} (h : '\n' ∉ word) (hs : Whole s) :
    word <:+: s ++ t ↔ word <:+: s ∨ word <:+: t := by
  obtain rfl | ⟨s, rfl⟩ := hs
  · refine ⟨.inr, ?_⟩
    rintro (hempty | ht)
    · exact List.infix_nil.mp hempty ▸ List.nil_infix
    · exact ht
  · rw [List.append_assoc, List.singleton_append, infix_append_feed h, infix_append_feed h]
    constructor
    · rintro (hs | ht)
      · exact .inl (.inl hs)
      · exact .inr ht
    · rintro ((hs | hempty) | ht)
      · exact .inl hs
      · exact .inl (List.infix_nil.mp hempty ▸ List.nil_infix)
      · exact .inr ht

/-- Texts without line feeds and carriage returns that are joined by line feeds are the lines of
what they make. -/
theorem lines_intercalate {ls : List (List Char)}
    (h : ∀ l ∈ ls, l ≠ [] ∧ '\n' ∉ l ∧ dropReturn l = l) :
    lines (['\n'].intercalate ls) = ls := by
  induction ls with
  | nil => rfl
  | cons l ls ih =>
      obtain ⟨⟨hne, hfeed, hreturn⟩, hls⟩ := List.forall_mem_cons.mp h
      cases ls with
      | nil => simpa [List.intercalate] using lines_of_not_mem hfeed hne
      | cons l' ls =>
          have hjoin : ['\n'].intercalate (l :: l' :: ls) =
              l ++ '\n' :: ['\n'].intercalate (l' :: ls) := by
            simp [List.intercalate]
          rw [hjoin, lines_append_feed hfeed, hreturn, ih hls]

end ShaderSketch.Text
