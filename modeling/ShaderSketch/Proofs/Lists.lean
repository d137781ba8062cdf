import Mathlib.Data.List.DropRight

/-!
# Lists

What is asked of lists of any kind, whatever they are made of: the texts that readers take apart,
the segments of a path and the labels of a name, the calls of a conversation.

## Main results

* `takeWhile_append_cons`, `dropWhile_append_cons` : a list is cut where a test first fails
* `rdropWhile_append`, `rdropWhile_append_replicate` : what is lost at the end of two lists that are
  put together
* `rdropWhile_dropWhile` : a list that ends in nothing to lose loses something in front only
* `exists_of_mem_mapM` : what comes of a list comes of one of its elements
* `mem_flatten_intersperse` : what stands in lists that are joined stands in one of them
* `eq_of_append_cons_eq` : a list is split in one place only at an element of which there is one
* `pairwise_eraseDups` : a list in order that keeps each number once
-/

namespace ShaderSketch

variable {α β : Type}

/-! ## Fronts -/

section Fronts

variable {p : α → Bool} {s t : List α} {a : α}

/-- A list that passes a test is taken whole in front of something that fails it. -/
theorem takeWhile_append_cons (hs : ∀ x ∈ s, p x) (ha : p a = false) :
    (s ++ a :: t).takeWhile p = s := by
  rw [List.takeWhile_append_of_pos hs, List.takeWhile_cons_of_neg (by simp [ha]), List.append_nil]

/-- And it is all that is lost there. -/
theorem dropWhile_append_cons (hs : ∀ x ∈ s, p x) (ha : p a = false) :
    (s ++ a :: t).dropWhile p = a :: t := by
  rw [List.dropWhile_append_of_pos hs, List.dropWhile_cons_of_neg (by simp [ha])]

/-- What is left of a list that loses something in front ends as the list does. -/
theorem getLast?_dropWhile (ha : a ∈ (s.dropWhile p).getLast?) : a ∈ s.getLast? := by
  obtain ⟨front, hfront⟩ := List.dropWhile_suffix (l := s) p
  have hne : s.dropWhile p ≠ [] := by
    rintro hnil
    rw [hnil] at ha
    cases ha
  rw [← hfront, List.getLast?_append_of_ne_nil _ hne]
  exact ha

end Fronts

/-! ## Ends -/

section Ends

variable {p : α → Bool}

/-- Of two lists, only the second loses anything at its end if the first ends in nothing to lose. -/
theorem rdropWhile_append {s t : List α} (h : ∀ a ∈ s.getLast?, p a = false) :
    (s ++ t).rdropWhile p = s ++ t.rdropWhile p := by
  have hs : s.reverse.dropWhile p = s.reverse := by
    cases hreverse : s.reverse with
    | nil => rfl
    | cons a s' =>
        refine List.dropWhile_cons_of_neg ?_
        have ha : a ∈ s.getLast? := by
          rw [← List.head?_reverse, hreverse]
          rfl
        simp [h a ha]
  unfold List.rdropWhile
  rw [List.reverse_append, List.dropWhile_append]
  split
  · rename_i hempty
    rw [List.isEmpty_iff] at hempty
    simp [hempty, hs]
  · simp

/-- A list that ends in nothing to lose loses something in front only. -/
theorem rdropWhile_dropWhile {s : List α} (hs : ∀ a ∈ s.getLast?, p a = false) :
    (s.dropWhile p).rdropWhile p = s.dropWhile p := by
  rw [List.rdropWhile_eq_self_iff]
  intro hne
  rw [hs _ (getLast?_dropWhile (List.getLast_mem_getLast? hne))]
  exact Bool.false_ne_true

/-- What is to lose goes with what there is of it in front. -/
theorem rdropWhile_append_replicate {a : α} (ha : p a = true) (s : List α) (k : Nat) :
    (s ++ List.replicate k a).rdropWhile p = s.rdropWhile p := by
  induction k with
  | zero => rw [List.replicate_zero, List.append_nil]
  | succ k ih =>
      rw [List.replicate_succ', ← List.append_assoc, List.rdropWhile_concat_pos _ _ _ ha, ih]

end Ends

/-! ## Elements -/

/-- What comes of a list comes of one of its elements. -/
theorem exists_of_mem_mapM {f : α → Option β} {l : List α} {l' : List β}
    (h : l.mapM f = some l') {b : β} (hb : b ∈ l') : ∃ a ∈ l, f a = some b := by
  induction l generalizing l' with
  | nil =>
      rw [List.mapM_nil] at h
      cases h
      cases hb
  | cons a l ih =>
      simp only [List.mapM_cons, Option.bind_eq_bind, Option.bind_eq_some_iff] at h
      obtain ⟨x, hx, xs, hxs, hl'⟩ := h
      cases hl'
      obtain rfl | hmem := List.mem_cons.mp hb
      · exact ⟨a, List.mem_cons_self, hx⟩
      · obtain ⟨a', ha', hfa'⟩ := ih hxs hmem
        exact ⟨a', List.mem_cons_of_mem _ ha', hfa'⟩

/-- Nothing comes only of the list without elements. -/
theorem eq_nil_of_mapM {f : α → Option β} {l : List α} (h : l.mapM f = some []) : l = [] := by
  cases l with
  | nil => rfl
  | cons a l =>
      simp only [List.mapM_cons, Option.bind_eq_bind, Option.bind_eq_some_iff] at h
      obtain ⟨b, -, bs, -, hcons⟩ := h
      cases hcons

/-- What stands in lists with a separator between them stands in that or in one of them. -/
theorem mem_flatten_intersperse {separator : List α} {ls : List (List α)} {a : α}
    (h : a ∈ (ls.intersperse separator).flatten) : a ∈ separator ∨ ∃ l ∈ ls, a ∈ l := by
  induction ls with
  | nil => cases h
  | cons l ls ih =>
      cases ls with
      | nil => exact .inr ⟨l, List.mem_cons_self, by simpa using h⟩
      | cons l' ls =>
          rw [List.intersperse_cons_cons, List.flatten_cons, List.flatten_cons, List.mem_append,
            List.mem_append] at h
          obtain hl | hseparator | hls := h
          · exact .inr ⟨l, List.mem_cons_self, hl⟩
          · exact .inl hseparator
          · obtain hseparator | ⟨l'', hl'', ha⟩ := ih hls
            · exact .inl hseparator
            · exact .inr ⟨l'', List.mem_cons_of_mem _ hl'', ha⟩

/-- A list is split in one place only at an element of which there is one. -/
theorem eq_of_append_cons_eq {p : α → Prop} {x y : α} {pre post pre' post' : List α}
    (hx : p x) (hpre : ∀ a ∈ pre', ¬p a) (hpost : ∀ a ∈ post', ¬p a)
    (h : pre ++ x :: post = pre' ++ y :: post') : pre = pre' ∧ x = y := by
  obtain ⟨between, hpre', hrest⟩ | ⟨between, hpre', hrest⟩ := List.append_eq_append_iff.mp h
  · cases between with
    | nil =>
        rw [List.nil_append, List.cons.injEq] at hrest
        exact ⟨by simpa using hpre'.symm, hrest.1⟩
    | cons a between =>
        -- the element would stand before its place
        obtain rfl : x = a := (List.cons.inj hrest).1
        exact absurd hx (hpre x (by simp [hpre']))
  · cases between with
    | nil =>
        rw [List.nil_append, List.cons.injEq] at hrest
        exact ⟨by simpa using hpre', hrest.1.symm⟩
    | cons a between =>
        have hmem : x ∈ post' := by simp [(List.cons.inj hrest).2]
        exact absurd hx (hpost x hmem)

/-- A list in order stays so, and gets no two of the same, when each number is kept once. -/
theorem pairwise_eraseDups {l : List Nat} (h : l.Pairwise (· ≤ ·)) :
    l.eraseDups.Pairwise (· < ·) := by
  induction hn : l.length using Nat.strong_induction_on generalizing l with
  | _ n ih =>
      cases l with
      | nil => simp
      | cons a l =>
          rw [List.pairwise_cons] at h
          rw [List.eraseDups_cons, List.pairwise_cons]
          constructor
          · intro b hb
            rw [List.mem_eraseDups, List.mem_filter] at hb
            have := h.1 b hb.1
            have hne : b ≠ a := by simpa using hb.2
            omega
          · refine ih _ ?_ (h.2.filter _) rfl
            have := List.length_filter_le (fun b => !b == a) l
            rw [List.length_cons] at hn
            omega

end ShaderSketch
