import ShaderSketch.Proofs.Shapes

/-!
# Reading documents of a fixed shape

The readers of strings, lists and records follow their shapes, and so does the reader of a document.

## Main results

* `Json.takes_text`, `Json.takes_elements`, `Json.takes_record` : the readers follow the shapes
* `Json.decode_of_document`, `Json.fails_decode_of_document`, `Json.document_of_decode` : whole
  documents
-/

namespace ShaderSketch.Json

variable {α : Type}

/-! ## Strings -/

/-- A text that starts with something else than a string is refused. -/
theorem fails_text {c : Char} {s t : List Char} (hskip : skipBlank s = c :: t) (hc : c ≠ '"') :
    Fails (text s) := by
  unfold text
  split
  · exact ⟨_, rfl⟩
  · rename_i hquote
    cases hskip.symm.trans hquote
    exact (hc rfl).elim
  · exact ⟨_, rfl⟩

/-- **Strings are read, and nothing else.**  A string without a content has no such shape, and so it
is refused where a text is needed. -/
theorem takes_text : Takes text Value.text? where
  outcome {v s s₁ r} before value := by
    have hskip := value.skipBlank before
    obtain ⟨ps, t, rfl, rfl, inside⟩ | ⟨vs, t, rfl, rfl, -⟩ | ⟨ms, t, rfl, rfl, -⟩ |
      ⟨c, t, atom, rfl, hquote, -, -⟩ := value.kind
    · have hstring := outcome_stringTail inside
      unfold text
      split
      all_goals
        rename_i hcons
        cases hskip.symm.trans hcons
      · rw [Value.text?]
        cases hcontent : content? ps with
        | none =>
            rw [hcontent] at hstring
            obtain ⟨f, hf⟩ := hstring
            rw [hf]
            exact ⟨f, rfl⟩
        | some cs =>
            rw [hcontent] at hstring
            obtain ⟨_, hstring⟩ := hstring
            rw [hstring]
            exact ⟨_, rfl⟩
      · contradiction
    · exact fails_text hskip (by decide)
    · exact fails_text hskip (by decide)
    · have hfails : Fails (text s) := fails_text hskip hquote
      cases atom <;> exact hfails
  value {a s r} h := by
    obtain ⟨_, h⟩ := h
    unfold text at h
    split at h
    · cases h
    · rename_i hquote
      split at h
      · rename_i hstring
        cases h
        obtain ⟨ps, inside⟩ := pieces_of_stringTail ⟨_, hstring⟩
        exact ⟨_, _, blanks_of_skipBlank hquote, .string (.mk inside)⟩
      · cases h
    · cases h

/-! ## Lists -/

theorem fails_elements {item : Reader α} {c : Char} {s t : List Char}
    (hskip : skipBlank s = c :: t) (hc : c ≠ '[') : Fails (elements item s) := by
  unfold elements
  dsimp only
  split
  · exact ⟨_, rfl⟩
  · rename_i hopen
    cases hskip.symm.trans hopen
    exact (hc rfl).elim
  · exact ⟨_, rfl⟩

/-- The elements of a list and its closing bracket. -/
theorem outcome_elements {item : Reader α} {as : Option (List α)} {s t r : List Char}
    (hskip : skipBlank s = '[' :: t) (inside : Reaches (elementsTail item false t) as (']' :: r)) :
    Outcome (elements item s) as r := by
  unfold elements
  dsimp only
  split
  all_goals
    rename_i hcons
    cases hskip.symm.trans hcons
  · cases as with
    | none =>
        obtain ⟨f, hf⟩ := inside
        rw [hf]
        exact ⟨f, rfl⟩
    | some as =>
        obtain ⟨u, ⟨_, hinside⟩, close⟩ := inside
        obtain ⟨_, hclose⟩ := leaves_endList close
        rw [hinside]
        dsimp only
        rw [hclose]
        exact ⟨_, rfl⟩
  · contradiction

/-- **Lists are read, and nothing else**, when their elements are.  What is asked of the elements is
what is shown of the list, so that readers may be put into each other. -/
theorem takes_elements {item : Reader α} {shape : Value → Option α} (takes : Takes item shape) :
    Takes (elements item) (Value.elements? shape) where
  outcome {v s s₁ r} before value := by
    have hskip := value.skipBlank before
    obtain ⟨ps, t, rfl, rfl, -⟩ | ⟨vs, t, rfl, rfl, within⟩ | ⟨ms, t, rfl, rfl, -⟩ |
      ⟨c, t, atom, rfl, -, hlist, -⟩ := value.kind
    · exact fails_elements hskip (by decide)
    · refine outcome_elements hskip ?_
      cases within with
      | none blank => exact reaches_elementsTail_nil blank
      | some items => exact reaches_elementsTail takes items rfl (.first t)
    · exact fails_elements hskip (by decide)
    · have hfails : Fails (elements item s) := fails_elements hskip hlist
      cases atom <;> exact hfails
  value {a s r} h := by
    obtain ⟨_, h⟩ := h
    unfold elements at h
    dsimp only at h
    split at h
    · cases h
    · rename_i hopen
      split at h
      · cases h
      rename_i hinside
      split at h
      · rename_i hclose
        cases h
        obtain ⟨vs, within⟩ :=
          (ongoing_of_elementsTail takes ⟨_, hinside⟩ (close_of_endList ⟨_, hclose⟩)).within
        exact ⟨_, _, blanks_of_skipBlank hopen, within.spells_list⟩
      · cases h
    · cases h

/-! ## Records -/

/-- A record is an object or a list, and starts like one. -/
theorem fails_record {kind field : String} {value : Reader α} {c : Char} {s t : List Char}
    (hskip : skipBlank s = c :: t) (hlist : c ≠ '[') (hobject : c ≠ '\x7b') :
    Fails (record kind field value s) := by
  unfold record
  dsimp only
  split
  · exact ⟨_, rfl⟩
  · rename_i hopen
    cases hskip.symm.trans hopen
    exact (hlist rfl).elim
  · rename_i hopen
    cases hskip.symm.trans hopen
    exact (hobject rfl).elim
  · exact ⟨_, rfl⟩

/-- A text that goes on with something else than a closing bracket does not end a list. -/
theorem fails_endList {s r : List Char} {c : Char} (h : Blanks s (c :: r))
    (hblank : c ∉ [' ', '\t', '\n', '\r']) (hc : c ≠ ']') : Fails (endList s) := by
  have hskip := skipBlank_of_blanks_cons h hblank
  unfold endList
  dsimp only
  split
  · exact ⟨_, rfl⟩
  · rename_i hclose
    cases hskip.symm.trans hclose
    exact (hc rfl).elim
  · split <;> exact ⟨_, rfl⟩
  · exact ⟨_, rfl⟩

/-- A record that is written as an empty list is refused. -/
theorem fails_record_empty {kind field : String} {value : Reader α} {s t r : List Char}
    (hskip : skipBlank s = '[' :: t) (blank : Blanks t (']' :: r)) :
    Fails (record kind field value s) := by
  unfold record
  dsimp only
  split
  · exact ⟨_, rfl⟩
  · rename_i hopen
    cases hskip.symm.trans hopen
    rw [nextElement_of_close blank]
    exact ⟨_, rfl⟩
  · rename_i hopen
    cases hskip.symm.trans hopen
  · exact ⟨_, rfl⟩

/-- A record that is written as a list has the value of its field as its only element. -/
theorem outcome_record_list {kind field : String} {value : Reader α} {a b : Option α}
    {s t u w r : List Char} (hskip : skipBlank s = '[' :: t)
    (next : Goes (nextElement false t) u) (one : Outcome (value u) a w)
    (close : (Leaves (endList w) r ∧ b = a) ∨ (Fails (endList w) ∧ b = none)) :
    Outcome (record kind field value s) b r := by
  obtain ⟨_, hnext⟩ := next
  unfold record
  dsimp only
  split
  all_goals
    rename_i hcons
    cases hskip.symm.trans hcons
  · rw [hnext]
    dsimp only
    cases a with
    | none =>
        obtain ⟨f, hf⟩ := one
        have hb : b = none := close.elim And.right And.right
        rw [hf, hb]
        exact ⟨f, rfl⟩
    | some a =>
        obtain ⟨_, hone⟩ := one
        rw [hone]
        dsimp only
        obtain ⟨⟨_, hclose⟩, rfl⟩ | ⟨⟨f, hclose⟩, rfl⟩ := close
        · rw [hclose]
          exact ⟨_, rfl⟩
        · rw [hclose]
          exact ⟨f, rfl⟩
  · contradiction

/-- A record that is written as an object has its field among the members. -/
theorem outcome_record_object {kind field : String} {value : Reader α} {found : Option (Option α)}
    {s t r : List Char} (hskip : skipBlank s = '\x7b' :: t)
    (inside : Reaches (membersTail field value none false t) found ('\x7d' :: r)) :
    Outcome (record kind field value s) found.join r := by
  unfold record
  dsimp only
  split
  all_goals
    rename_i hcons
    cases hskip.symm.trans hcons
  · cases found with
    | none =>
        obtain ⟨f, hf⟩ := inside
        rw [hf]
        exact ⟨f, rfl⟩
    | some found =>
        obtain ⟨u, ⟨_, hinside⟩, close⟩ := inside
        obtain ⟨_, hclose⟩ := leaves_endObject close
        rw [hinside]
        dsimp only
        rw [hclose]
        cases found <;> exact ⟨_, rfl⟩
  · contradiction

/-- A list is read as a record when it has one element, and that has the shape. -/
theorem outcome_record_of_list {kind field : String} {value : Reader α} {shape : Value → Option α}
    (takes : Takes value shape) {vs : List Value} {s t r : List Char}
    (hskip : skipBlank s = '[' :: t) (within : Within (Padded Spells) ']' vs t r) :
    Outcome (record kind field value s) (Value.record? field shape (.list vs)) r := by
  cases within with
  | none blank => exact fails_record_empty hskip blank
  | some items =>
      cases items with
      | last one =>
          obtain ⟨before, spelled, after⟩ := one
          exact outcome_record_list hskip (spelled.goes_nextElement (.first t) before)
            (takes.outcome (blanks_refl _) spelled) (.inl ⟨leaves_endList after, rfl⟩)
      | more one rest =>
          -- a second element is refused, whatever the first one is
          obtain ⟨before, spelled, after⟩ := one
          refine outcome_record_list hskip (spelled.goes_nextElement (.first t) before)
            (takes.outcome (blanks_refl _) spelled)
            (.inr ⟨fails_endList after (by decide) (by decide), ?_⟩)
          cases rest <;> rfl

/-- Nothing but a list with one element and an object are read as records. -/
theorem spells_of_record {kind field : String} {value : Reader α} {shape : Value → Option α}
    (takes : Takes value shape) {a : α} {s r : List Char}
    (h : Yields (record kind field value s) a r) : ∃ v s₁, Blanks s s₁ ∧ Spells v s₁ r := by
  obtain ⟨_, h⟩ := h
  unfold record at h
  dsimp only at h
  split at h
  · cases h
  · rename_i hopen
    split at h
    · cases h
    · cases h
    rename_i hnext
    obtain ⟨s', sep, hblanks⟩ := separated_of_goes_nextElement ⟨_, hnext⟩
    split at h
    · cases h
    rename_i hone
    obtain ⟨v, s₁, before, spelled⟩ := takes.value ⟨_, hone⟩
    split at h
    · cases h
    rename_i hclose
    cases h
    cases sep
    exact ⟨_, _, blanks_of_skipBlank hopen,
      .list (.last ⟨hblanks.trans before, spelled, close_of_endList ⟨_, hclose⟩⟩)⟩
  · rename_i hopen
    split at h
    · cases h
    rename_i hinside
    split at h
    · rename_i hclose
      cases h
      obtain ⟨ms, within⟩ :=
        (ongoing_of_membersTail takes ⟨_, hinside⟩ (close_of_endObject ⟨_, hclose⟩)).within
      exact ⟨_, _, blanks_of_skipBlank hopen, within.spells_object⟩
    · cases h
    · cases h
  · cases h

/-- **Records are read, and nothing else**, when the values of their fields are.  Two shapes are
taken by one reader, an object and a list; both have one field, and no other text is decoded. -/
theorem takes_record (kind field : String) {value : Reader α} {shape : Value → Option α}
    (takes : Takes value shape) :
    Takes (record kind field value) (Value.record? field shape) where
  outcome {v s s₁ r} before spelled := by
    have hskip := spelled.skipBlank before
    obtain ⟨ps, t, rfl, rfl, -⟩ | ⟨vs, t, rfl, rfl, within⟩ | ⟨ms, t, rfl, rfl, within⟩ |
      ⟨c, t, atom, rfl, -, hlist, hobject⟩ := spelled.kind
    · exact fails_record hskip (by decide) (by decide)
    · exact outcome_record_of_list takes hskip within
    · refine outcome_record_object hskip ?_
      cases within with
      | none blank => exact reaches_membersTail_nil blank
      | some items => exact reaches_membersTail takes items rfl (.first t)
    · have hfails : Fails (record kind field value s) := fails_record hskip hlist hobject
      cases atom <;> exact hfails
  value := spells_of_record takes

/-! ## Whole documents -/

/-- **A document that has the shape is decoded.**  The document may have blanks around it, and
behind it there may be nothing else. -/
theorem decode_of_document {value : Reader α} {shape : Value → Option α} (takes : Takes value shape)
    {v : Value} {a : α} {s : List Char} (h : Document v s) (ha : shape v = some a) :
    decode value s = .ok a := by
  obtain ⟨before, spelled, after⟩ := h
  have hread := takes.outcome before spelled
  rw [ha] at hread
  obtain ⟨_, hread⟩ := hread
  have hend := skipBlank_of_blanks after
  rw [decode, hread]
  dsimp only
  rw [hend]
  rfl

/-- **A document of another shape is refused.**  Nothing is said of which fault it is.  A text may
have more than one, and what is told then is the first that was come across. -/
theorem fails_decode_of_document {value : Reader α} {shape : Value → Option α}
    (takes : Takes value shape) {v : Value} {s : List Char} (h : Document v s)
    (hv : shape v = none) : Fails (decode value s) := by
  obtain ⟨before, spelled, -⟩ := h
  have hread := takes.outcome before spelled
  rw [hv] at hread
  obtain ⟨f, hf⟩ := hread
  rw [decode, hf]
  exact ⟨f, rfl⟩

/-- **Nothing but documents is decoded.**  This is what is left for texts that are no documents:
they are refused, as they cannot have been decoded. -/
theorem document_of_decode {value : Reader α} {shape : Value → Option α}
    (takes : Takes value shape) {a : α} {s : List Char} (h : decode value s = .ok a) :
    ∃ v, Document v s := by
  rw [decode] at h
  split at h
  · cases h
  rename_i r _ hread
  split at h
  · rename_i hend
    obtain ⟨v, s₁, before, spelled⟩ := takes.value ⟨_, hread⟩
    exact ⟨v, before, spelled, hend ▸ blanks_skipBlank r⟩
  · cases h

end ShaderSketch.Json
