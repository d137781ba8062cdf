import ShaderSketch.Json.Skip
import ShaderSketch.Proofs.Lexemes

/-!
# Skipping values

A value that is not needed is skipped without recursion, with the lists and objects that are open on
a stack.  What is still to come for a stack is a relation here, and skipping a value inside of some
frames is skipping one spelling and then what closes the frames.

## Main definitions

* `Json.Closes` — a text that closes open lists and objects
* `Json.Next` — a text that goes on with an element or a member
* `Json.Follows` — how the closers behind a part end

## Main results

* `Json.leaves_skipNested`, `Json.spells_of_skipNested` : every value is skipped, inside of any
  frames, and nothing else
* `Json.leaves_skipValue`, `Json.spells_of_skipValue` : the same without frames
-/

namespace ShaderSketch.Json

/-! ## First characters -/

/-- The character that opens a list or an object. -/
def Frame.opener : Frame → Char
  | .list => '['
  | .object => '\x7b'

/-- No value starts with a blank, a comma or a closing character. -/
theorem Spells.head {v : Value} {s r : List Char} (h : Spells v s r) :
    ∃ c t, s = c :: t ∧ c ∉ [' ', '\t', '\n', '\r', ',', ']', '\x7d', ':'] := by
  have hdigit (d : Char) (hd : Digit d) : d ∉ [' ', '\t', '\n', '\r', ',', ']', '\x7d', ':'] := by
    have hall : ∀ d ∈ "0123456789".toList,
        d ∉ [' ', '\t', '\n', '\r', ',', ']', '\x7d', ':'] :=
      List.all_iff_forall_prop.mp (by decide)
    exact hall d hd
  have hmagnitude (s : List Char) (hs : Magnitude s r) :
      ∃ c t, s = c :: t ∧ c ∉ [' ', '\t', '\n', '\r', ',', ']', '\x7d', ':'] := by
    obtain ⟨whole, -, -⟩ := hs
    cases whole with
    | zero => exact ⟨_, _, rfl, by decide⟩
    | digits _ digits =>
        obtain ⟨first, -⟩ := digits
        exact ⟨_, _, rfl, hdigit _ first⟩
  cases h with
  | null => exact ⟨_, _, rfl, by decide⟩
  | true => exact ⟨_, _, rfl, by decide⟩
  | false => exact ⟨_, _, rfl, by decide⟩
  | number numeral =>
      cases numeral with
      | positive magnitude => exact hmagnitude _ magnitude
      | negative => exact ⟨_, _, rfl, by decide⟩
  | string quoted =>
      cases quoted
      exact ⟨_, _, rfl, by decide⟩
  | emptyList => exact ⟨_, _, rfl, by decide⟩
  | list => exact ⟨_, _, rfl, by decide⟩
  | emptyObject => exact ⟨_, _, rfl, by decide⟩
  | object => exact ⟨_, _, rfl, by decide⟩

theorem skipBlank_of_blanks_cons {c : Char} {s r : List Char} (h : Blanks s (c :: r))
    (hc : c ∉ [' ', '\t', '\n', '\r']) : skipBlank s = c :: r := by
  rw [skipBlank_of_blanks h, skipBlank_cons hc]

/-- Blanks in front of a value are skipped, and nothing of the value. -/
theorem Spells.skipBlank {v : Value} {s s₁ r : List Char} (h : Spells v s₁ r)
    (before : Blanks s s₁) : skipBlank s = s₁ := by
  obtain ⟨c, t, rfl, hc⟩ := h.head
  exact skipBlank_of_blanks_cons before fun hmem =>
    hc (List.mem_append_left [',', ']', '\x7d', ':'] hmem)

theorem blanks_of_skipBlank {s : List Char} {c : Char} {t : List Char}
    (h : ShaderSketch.Json.skipBlank s = c :: t) : Blanks s (c :: t) := by
  rw [← h]
  exact blanks_skipBlank s

/-! ## What is still to come -/

/-- A text that closes open lists and objects, innermost first, and what is left of it.  What stands
between two closers are whole values, so that what is left in the end is not in any of them. -/
inductive Closes : List Frame → List Char → List Char → Prop
  | nil (r : List Char) : Closes [] r r
  | close {frame : Frame} {outer : List Frame} {s s' r : List Char}
      (closer : Blanks s (frame.closer :: s')) (rest : Closes outer s' r) :
      Closes (frame :: outer) s r
  | element {v : Value} {outer : List Frame} {s s₁ s₂ s₃ r : List Char}
      (comma : Blanks s (',' :: s₁)) (before : Blanks s₁ s₂) (value : Spells v s₂ s₃)
      (rest : Closes (.list :: outer) s₃ r) : Closes (.list :: outer) s r
  | member {key : Option (List Char)} {v : Value} {outer : List Frame}
      {s s₁ s₂ s₃ s₄ r : List Char} (comma : Blanks s (',' :: s₁))
      (name : Padded Quoted key s₁ (':' :: s₂)) (before : Blanks s₂ s₃) (value : Spells v s₃ s₄)
      (rest : Closes (.object :: outer) s₄ r) : Closes (.object :: outer) s r

/-- A text that goes on with an element or a member, and then closes what is open.  It is what
follows an opening character or a comma; the frame says whether a key has to come first. -/
inductive Next (outer : List Frame) : Frame → List Char → List Char → Prop
  | element {v : Value} {s s₁ s₂ r : List Char} (before : Blanks s s₁) (value : Spells v s₁ s₂)
      (rest : Closes (.list :: outer) s₂ r) : Next outer .list s r
  | member {key : Option (List Char)} {v : Value} {s s₁ s₂ s₃ r : List Char}
      (name : Padded Quoted key s (':' :: s₁)) (before : Blanks s₁ s₂) (value : Spells v s₂ s₃)
      (rest : Closes (.object :: outer) s₃ r) : Next outer .object s r

theorem Closes.more {frame : Frame} {outer : List Frame} {s s' r : List Char}
    (comma : Blanks s (',' :: s')) (next : Next outer frame s' r) :
    Closes (frame :: outer) s r := by
  cases next with
  | element before value rest => exact .element comma before value rest
  | member name before value rest => exact .member comma name before value rest

/-- What is open is closed, or goes on behind a comma. -/
theorem Closes.cases_cons {frame : Frame} {outer : List Frame} {s r : List Char}
    (h : Closes (frame :: outer) s r) :
    (∃ s', Blanks s (frame.closer :: s') ∧ Closes outer s' r) ∨
      ∃ s', Blanks s (',' :: s') ∧ Next outer frame s' r := by
  cases h with
  | close closer rest => exact .inl ⟨_, closer, rest⟩
  | element comma before value rest => exact .inr ⟨_, comma, .element before value rest⟩
  | member comma name before value rest => exact .inr ⟨_, comma, .member name before value rest⟩

/-- The elements of a list behind its first one, as what is still to come. -/
theorem next_of_elements {vs : List Value} {outer : List Frame} {s s' r t : List Char}
    (h : SepBy (Padded Spells) vs s t) (ht : t = ']' :: s') (rest : Closes outer s' r) :
    Next outer .list s r := by
  induction h with
  | last one =>
      subst ht
      obtain ⟨before, inner, after⟩ := one
      exact .element before inner (.close after rest)
  | more one _ ih =>
      obtain ⟨before, inner, after⟩ := one
      exact .element before inner (.more after (ih ht))

/-- The members of an object behind its first one, as what is still to come. -/
theorem next_of_members {ms : List (Option (List Char) × Value)} {outer : List Frame}
    {s s' r t : List Char} (h : SepBy (Member Spells) ms s t) (ht : t = '\x7d' :: s')
    (rest : Closes outer s' r) : Next outer .object s r := by
  induction h with
  | last one =>
      subst ht
      obtain ⟨name, before, inner, after⟩ := one
      exact .member name before inner (.close after rest)
  | more one _ ih =>
      obtain ⟨name, before, inner, after⟩ := one
      exact .member name before inner (.more after (ih ht))

/-- A first element, and what closes the list behind it, are its elements and what closes the rest.
-/
theorem elements_of_closes {frames outer : List Frame} {s r : List Char} (h : Closes frames s r)
    (hframes : frames = .list :: outer) {v : Value} {s₀ s₁ : List Char} (before : Blanks s₀ s₁)
    (value : Spells v s₁ s) :
    ∃ vs s', SepBy (Padded Spells) vs s₀ (']' :: s') ∧ Closes outer s' r := by
  induction h generalizing v s₀ s₁ with
  | nil => cases hframes
  | close closer rest _ =>
      obtain ⟨rfl, rfl⟩ := List.cons.inj hframes
      exact ⟨_, _, .last ⟨before, value, closer⟩, rest⟩
  | element comma before' value' _ ih =>
      obtain ⟨vs, s', hvs, hrest⟩ := ih hframes before' value'
      exact ⟨_, s', .more ⟨before, value, comma⟩ hvs, hrest⟩
  | member => cases hframes

/-- So for the members of an object. -/
theorem members_of_closes {frames outer : List Frame} {s r : List Char} (h : Closes frames s r)
    (hframes : frames = .object :: outer) {key : Option (List Char)} {v : Value}
    {s₀ s₁ s₂ : List Char} (name : Padded Quoted key s₀ (':' :: s₁)) (before : Blanks s₁ s₂)
    (value : Spells v s₂ s) :
    ∃ ms s', SepBy (Member Spells) ms s₀ ('\x7d' :: s') ∧ Closes outer s' r := by
  induction h generalizing key v s₀ s₁ s₂ with
  | nil => cases hframes
  | close closer rest _ =>
      obtain ⟨rfl, rfl⟩ := List.cons.inj hframes
      exact ⟨_, _, .last ⟨name, before, value, closer⟩, rest⟩
  | element => cases hframes
  | member comma name' before' value' _ ih =>
      obtain ⟨ms, s', hms, hrest⟩ := ih hframes name' before' value'
      exact ⟨_, s', .more ⟨name, before, value, comma⟩ hms, hrest⟩

/-! ## Keys -/

/-- A key is skipped with its colon, and blanks may stand around it. -/
theorem leaves_skipKey {key : Option (List Char)} {s r : List Char}
    (h : Padded Quoted key s (':' :: r)) : Leaves (skipKey s) r := by
  obtain ⟨before, ⟨inside⟩, after⟩ := h
  have hquote := skipBlank_of_blanks_cons before (by decide)
  have hcolon := skipBlank_of_blanks_cons after (by decide)
  obtain ⟨_, hstring⟩ := leaves_skipString inside
  unfold skipKey
  split
  all_goals
    rename_i hcons
    cases hquote.symm.trans hcons
  · rw [hstring]
    dsimp only
    split
    all_goals
      rename_i hcons
      cases hcolon.symm.trans hcons
    · exact ⟨_, rfl⟩
    · contradiction
  · contradiction

/-- Nothing but a key with its colon is skipped as one. -/
theorem key_of_skipKey {s r : List Char} (h : Leaves (skipKey s) r) :
    ∃ key, Padded Quoted key s (':' :: r) := by
  obtain ⟨_, h⟩ := h
  unfold skipKey at h
  split at h
  · cases h
  · rename_i hquote
    split at h
    · cases h
    · rename_i hstring
      split at h
      · cases h
      · rename_i hcolon
        cases h
        obtain ⟨ps, inside⟩ := pieces_of_skipString ⟨_, hstring⟩
        exact ⟨_, blanks_of_skipBlank hquote, .mk inside, blanks_of_skipBlank hcolon⟩
      · cases h
  · cases h

/-! ## Parts -/

theorem leaves_word (letters r : List Char) : Leaves (word letters (letters ++ r)) r := by
  induction letters with
  | nil => exact ⟨_, rfl⟩
  | cons c letters ih =>
      obtain ⟨_, hrest⟩ := ih
      rw [List.cons_append, word, if_pos rfl, hrest]
      exact ⟨_, rfl⟩

/-- A word is taken letter by letter, and nothing else is. -/
theorem eq_of_word {letters s r : List Char} (h : Leaves (word letters s) r) :
    s = letters ++ r := by
  induction letters generalizing s with
  | nil =>
      obtain ⟨_, h⟩ := h
      cases h
      rfl
  | cons e letters ih =>
      obtain ⟨_, h⟩ := h
      cases s with
      | nil => cases h
      | cons c s =>
          rw [word] at h
          split at h
          · rename_i heq
            split at h
            · rename_i hrest
              cases h
              rw [heq, ih ⟨_, hrest⟩]
              rfl
            · cases h
          · cases h

/-- A number has no parts, and its sign, if any, is taken first. -/
theorem yields_skipPart_number {s r : List Char} (h : Numeral s r) (hr : Ends r) :
    Yields (skipPart s) none r := by
  cases h with
  | negative magnitude =>
      obtain ⟨_, hnumber⟩ := leaves_skipNumber magnitude hr
      simp only [skipPart, hnumber]
      exact ⟨_, rfl⟩
  | positive magnitude =>
      obtain ⟨_, hnumber⟩ := leaves_skipNumber magnitude hr
      obtain ⟨d, t, rfl, hd⟩ : ∃ d t, s = d :: t ∧ Digit d := by
        obtain ⟨whole, -, -⟩ := magnitude
        cases whole with
        | zero => exact ⟨_, _, rfl, by decide⟩
        | digits _ digits =>
            obtain ⟨first, -⟩ := digits
            exact ⟨_, _, rfl, first⟩
      rw [skipPart]
      · rw [if_pos (isDigit_iff.mpr hd), hnumber]
        exact ⟨_, rfl⟩
      all_goals
        rintro rfl
        exact absurd hd (by decide)

/-- **A value without parts is taken.**  Of a list or an object the opening character is taken, and
then it is closed, or there is something in it.  The condition is only for numbers, which go as far
as they can. -/
theorem yields_skipPart {v : Value} {s r : List Char} (h : Spells v s r) (hr : Ends r) :
    Yields (skipPart s) none r ∨
      ∃ frame t, Yields (skipPart s) (some frame) t ∧
        (Blanks t (frame.closer :: r) ∨ ∀ outer u, Closes outer r u → Next outer frame t u) := by
  cases h with
  | null =>
      obtain ⟨_, hword⟩ := leaves_word ['u', 'l', 'l'] r
      refine .inl ?_
      change Yields (skipPart ('n' :: (['u', 'l', 'l'] ++ r))) none r
      simp only [skipPart, hword]
      exact ⟨_, rfl⟩
  | true =>
      obtain ⟨_, hword⟩ := leaves_word ['r', 'u', 'e'] r
      refine .inl ?_
      change Yields (skipPart ('t' :: (['r', 'u', 'e'] ++ r))) none r
      simp only [skipPart, hword]
      exact ⟨_, rfl⟩
  | false =>
      obtain ⟨_, hword⟩ := leaves_word ['a', 'l', 's', 'e'] r
      refine .inl ?_
      change Yields (skipPart ('f' :: (['a', 'l', 's', 'e'] ++ r))) none r
      simp only [skipPart, hword]
      exact ⟨_, rfl⟩
  | number numeral => exact .inl (yields_skipPart_number numeral hr)
  | string quoted =>
      obtain ⟨inside⟩ := quoted
      obtain ⟨_, hstring⟩ := leaves_skipString inside
      refine .inl ?_
      simp only [skipPart, hstring]
      exact ⟨_, rfl⟩
  | emptyList inside => exact .inr ⟨.list, _, ⟨_, rfl⟩, .inl inside⟩
  | list elements =>
      exact .inr ⟨.list, _, ⟨_, rfl⟩, .inr fun _ _ rest => next_of_elements elements rfl rest⟩
  | emptyObject inside => exact .inr ⟨.object, _, ⟨_, rfl⟩, .inl inside⟩
  | object members =>
      exact .inr ⟨.object, _, ⟨_, rfl⟩, .inr fun _ _ rest => next_of_members members rfl rest⟩

/-- **Nothing else is taken.**  An opening character is all that is taken of a list or an object,
whatever follows it. -/
theorem spells_of_skipPart {opened : Option Frame} {s r : List Char}
    (h : Yields (skipPart s) opened r) :
    (opened = none ∧ ∃ v, Spells v s r) ∨
      ∃ frame, opened = some frame ∧ s = frame.opener :: r := by
  obtain ⟨_, h⟩ := h
  cases s with
  | nil => cases h
  | cons c t =>
      rw [skipPart.eq_def] at h
      dsimp only at h
      split at h
      · split at h
        · rename_i hword
          cases h
          refine .inl ⟨rfl, .null, ?_⟩
          rw [eq_of_word ⟨_, hword⟩]
          exact .null _
        · cases h
      · split at h
        · rename_i hword
          cases h
          refine .inl ⟨rfl, .boolean true, ?_⟩
          rw [eq_of_word ⟨_, hword⟩]
          exact .true _
        · cases h
      · split at h
        · rename_i hword
          cases h
          refine .inl ⟨rfl, .boolean false, ?_⟩
          rw [eq_of_word ⟨_, hword⟩]
          exact .false _
        · cases h
      · split at h
        · rename_i hstring
          cases h
          obtain ⟨ps, inside⟩ := pieces_of_skipString ⟨_, hstring⟩
          exact .inl ⟨rfl, _, .string (.mk inside)⟩
        · cases h
      · split at h
        · rename_i hnumber
          cases h
          exact .inl ⟨rfl, _, .number (.negative (magnitude_of_skipNumber ⟨_, hnumber⟩))⟩
        · cases h
      · cases h
        exact .inr ⟨.list, rfl, rfl⟩
      · cases h
        exact .inr ⟨.object, rfl, rfl⟩
      · split at h
        · split at h
          · rename_i hnumber
            cases h
            exact .inl ⟨rfl, _, .number (.positive (magnitude_of_skipNumber ⟨_, hnumber⟩))⟩
          · cases h
        · cases h

/-! ## Closers -/

/-- How the closers behind a part end: everything is closed, or the next value is in front.  Frames
that were closed are not come back to, so that what is left to close is told with the next value. -/
inductive Follows {s : List Char} (x : Except Fault (Follow s)) (r : List Char) : Prop
  | done (h : ∃ hr, x = .ok (.done ⟨r, hr⟩))
  | more {frame : Frame} {outer : List Frame} {t : List Char}
      (h : ∃ ht, x = .ok (.more frame outer ⟨t, ht⟩)) (next : Next outer frame t r)

theorem Frame.closer_not_blank (frame : Frame) : frame.closer ∉ [' ', '\t', '\n', '\r'] := by
  cases frame <;> decide

/-- One frame is closed, and then those around it. -/
theorem follows_close (began : Bool) {frame next : Frame} {outer : List Frame} {s s' r : List Char}
    (closer : Blanks s (frame.closer :: s')) (rest : Follows (skipClosers true next outer s') r) :
    Follows (skipClosers began frame (next :: outer) s) r := by
  have hcloser := skipBlank_of_blanks_cons closer frame.closer_not_blank
  have hcomma : frame.closer ≠ ',' := by cases frame <;> decide
  rw [skipClosers.eq_def]
  split
  all_goals
    rename_i hcons
    cases hcloser.symm.trans hcons
  dsimp only
  rw [if_neg fun h => hcomma h.1, if_pos rfl]
  cases rest with
  | done h =>
      obtain ⟨_, hdone⟩ := h
      rw [hdone]
      exact .done ⟨_, rfl⟩
  | more h next =>
      obtain ⟨_, hmore⟩ := h
      rw [hmore]
      exact .more ⟨_, rfl⟩ next

theorem follows_last (began : Bool) {frame : Frame} {s r : List Char}
    (closer : Blanks s (frame.closer :: r)) : Follows (skipClosers began frame [] s) r := by
  have hcloser := skipBlank_of_blanks_cons closer frame.closer_not_blank
  have hcomma : frame.closer ≠ ',' := by cases frame <;> decide
  rw [skipClosers.eq_def]
  split
  all_goals
    rename_i hcons
    cases hcloser.symm.trans hcons
  dsimp only
  rw [if_neg fun h => hcomma h.1, if_pos rfl]
  exact .done ⟨_, rfl⟩

theorem follows_comma {frame : Frame} {outer : List Frame} {s s' r : List Char}
    (comma : Blanks s (',' :: s')) (next : Next outer frame s' r) :
    Follows (skipClosers true frame outer s) r := by
  have hcomma := skipBlank_of_blanks_cons comma (by decide)
  rw [skipClosers.eq_def]
  split
  all_goals
    rename_i hcons
    cases hcomma.symm.trans hcons
  dsimp only
  rw [if_pos ⟨rfl, rfl⟩]
  exact .more ⟨_, rfl⟩ next

/-- **Behind a part the open frames are closed**, up to the next value. -/
theorem follows_skipClosers {frame : Frame} {outer : List Frame} {s r : List Char}
    (h : Closes (frame :: outer) s r) : Follows (skipClosers true frame outer s) r := by
  induction outer generalizing frame s with
  | nil =>
      obtain ⟨s', closer, rest⟩ | ⟨s', comma, next⟩ := h.cases_cons
      · cases rest
        exact follows_last true closer
      · exact follows_comma comma next
  | cons outermost outer ih =>
      obtain ⟨s', closer, rest⟩ | ⟨s', comma, next⟩ := h.cases_cons
      · exact follows_close true closer (ih rest)
      · exact follows_comma comma next

/-- An empty list or object is closed, and then the frames around it. -/
theorem follows_empty {frame : Frame} {outer : List Frame} {s s' r : List Char}
    (closer : Blanks s (frame.closer :: s')) (rest : Closes outer s' r) :
    Follows (skipClosers false frame outer s) r := by
  cases outer with
  | nil =>
      cases rest
      exact follows_last false closer
  | cons outermost outer => exact follows_close false closer (follows_skipClosers rest)

/-- The first character of what is in a list or an object. -/
theorem Next.head {frame : Frame} {outer : List Frame} {s r : List Char}
    (h : Next outer frame s r) :
    ∃ c t, skipBlank s = c :: t ∧ c ≠ frame.closer ∧ Next outer frame (c :: t) r := by
  cases h with
  | element before value rest =>
      have hskip := value.skipBlank before
      obtain ⟨c, t, rfl, hc⟩ := value.head
      refine ⟨c, t, hskip, ?_, .element (blanks_refl _) value rest⟩
      rintro rfl
      exact hc (by decide)
  | member name before value rest =>
      obtain ⟨before', ⟨inside⟩, after⟩ := name
      exact ⟨_, _, skipBlank_of_blanks_cons before' (by decide), by decide,
        .member (.mk (blanks_refl _) (.mk inside) after) before value rest⟩

/-- In a list or an object that is not empty the first value is in front. -/
theorem follows_first {frame : Frame} {outer : List Frame} {s r : List Char}
    (h : Next outer frame s r) : Follows (skipClosers false frame outer s) r := by
  obtain ⟨c, t, hskip, hcloser, next⟩ := h.head
  rw [skipClosers.eq_def]
  split
  all_goals
    rename_i hcons
    cases hskip.symm.trans hcons
  dsimp only
  rw [if_neg fun h => Bool.false_ne_true h.2, if_neg hcloser]
  exact .more ⟨_, rfl⟩ next

/-! ## Values -/

/-- A part is skipped, and then what follows it. -/
theorem leaves_of_part {opened : Option Frame} {outer : List Frame} {s t r : List Char}
    (part : Yields (skipPart (skipBlank s)) opened t)
    (follow : Follows (followPart opened outer t) r)
    (ih : ∀ (frame : Frame) (outer : List Frame) (v : Value) (u u₁ u₂ : List Char),
      u.length < s.length → Blanks u u₁ → Spells v u₁ u₂ → Closes (frame :: outer) u₂ r →
      Leaves (skipNested (frame :: outer) u) r) : Leaves (skipNested outer s) r := by
  obtain ⟨ht, hpart⟩ := part
  have hshort : t.length < s.length := Nat.lt_of_lt_of_le ht (length_skipBlank_le s)
  rw [skipNested.eq_def, hpart]
  dsimp only
  cases follow with
  | done h =>
      obtain ⟨_, hdone⟩ := h
      rw [hdone]
      exact ⟨_, rfl⟩
  | more h next =>
      obtain ⟨hu, hmore⟩ := h
      rw [hmore]
      cases next with
      | element before value rest =>
          obtain ⟨_, hlist⟩ := ih .list _ _ _ _ _ (Nat.lt_of_le_of_lt hu hshort) before value rest
          dsimp only
          rw [hlist]
          exact ⟨_, rfl⟩
      | member name before value rest =>
          obtain ⟨hkey, hname⟩ := leaves_skipKey name
          obtain ⟨_, hobject⟩ := ih .object _ _ _ _ _
            (Nat.lt_of_le_of_lt hkey (Nat.lt_of_le_of_lt hu hshort)) before value rest
          dsimp only
          rw [hname]
          dsimp only
          rw [hobject]
          exact ⟨_, rfl⟩

theorem ends_of_blanks {c : Char} {s r : List Char} (h : Blanks s (c :: r))
    (hc : ¬ Digit c ∧ c ∉ ['.', 'e', 'E']) : Ends s := by
  have hblank : ∀ b ∈ [' ', '\t', '\n', '\r'], ¬ Digit b ∧ b ∉ ['.', 'e', 'E'] :=
    List.all_iff_forall_prop.mp (by decide)
  obtain ⟨w, hw, rfl⟩ := h
  cases w with
  | nil =>
      rintro d ⟨⟩
      exact hc
  | cons b w =>
      rintro d ⟨⟩
      exact hblank b (hw b List.mem_cons_self)

/-- What closes a frame is no number. -/
theorem Closes.ends {frame : Frame} {outer : List Frame} {s r : List Char}
    (h : Closes (frame :: outer) s r) : Ends s := by
  obtain ⟨s', closer, -⟩ | ⟨s', comma, -⟩ := h.cases_cons
  · refine ends_of_blanks closer ?_
    cases frame <;> decide
  · exact ends_of_blanks comma (by decide)

/-- **Every value is skipped**, and then what closes the frames that it lies in.  The induction is
on the length of the text and not on the value, since skipping does not come back to a list when an
element of it is over: it goes on with what is open. -/
theorem leaves_skipNested {outer : List Frame} {v : Value} {s s₁ s₂ r : List Char}
    (before : Blanks s s₁) (value : Spells v s₁ s₂) (rest : Closes outer s₂ r) (hend : Ends s₂) :
    Leaves (skipNested outer s) r := by
  obtain ⟨n, hn⟩ : ∃ n, s.length = n := ⟨_, rfl⟩
  induction n using Nat.strong_induction_on generalizing outer v s s₁ s₂ with
  | _ n ih =>
      have hskip := value.skipBlank before
      obtain hpart | ⟨frame, t, hpart, hinside⟩ := yields_skipPart value hend
      · rw [← hskip] at hpart
        refine leaves_of_part hpart ?_ fun frame outer v u u₁ u₂ hlt hbefore hvalue hrest =>
          ih _ (hn ▸ hlt) hbefore hvalue hrest hrest.ends rfl
        cases outer with
        | nil =>
            cases rest
            exact .done ⟨_, rfl⟩
        | cons frame outer => exact follows_skipClosers rest
      · rw [← hskip] at hpart
        refine leaves_of_part hpart ?_ fun frame outer v u u₁ u₂ hlt hbefore hvalue hrest =>
          ih _ (hn ▸ hlt) hbefore hvalue hrest hrest.ends rfl
        obtain hempty | hfirst := hinside
        · exact follows_empty hempty rest
        · exact follows_first (hfirst outer r rest)

/-- **Every value is skipped** that is not followed by more of a number. -/
theorem leaves_skipValue {v : Value} {s s₁ r : List Char} (before : Blanks s s₁)
    (value : Spells v s₁ r) (hend : Ends r) : Leaves (skipValue s) r :=
  leaves_skipNested before value (.nil r) hend

/-! ## Nothing else is skipped -/

theorem not_follows_error {s r : List Char} {f : Fault} :
    ¬ Follows (.error f : Except Fault (Follow s)) r := by
  rintro (⟨_, h⟩ | ⟨⟨_, h⟩, _⟩) <;> cases h

theorem eq_of_follows_done {s t r : List Char} {ht : t.length ≤ s.length}
    (h : Follows (.ok (.done ⟨t, ht⟩) : Except Fault (Follow s)) r) : t = r := by
  obtain ⟨_, h⟩ | ⟨⟨_, h⟩, _⟩ := h
  · cases h
    rfl
  · cases h

theorem next_of_follows_more {s t r : List Char} {frame : Frame} {outer : List Frame}
    {ht : t.length ≤ s.length}
    (h : Follows (.ok (.more frame outer ⟨t, ht⟩) : Except Fault (Follow s)) r) :
    Next outer frame t r := by
  obtain ⟨_, h⟩ | ⟨⟨_, h⟩, next⟩ := h
  · cases h
  · cases h
    exact next

/-- The closers of the frames around are those of the first of them, and so on. -/
theorem follows_of_follows_close {next : Frame} {outer : List Frame} {s t r : List Char}
    {ht : t.length < s.length}
    (h : Follows (match skipClosers true next outer t with
      | .error f => .error f
      | .ok (.done ⟨u, hu⟩) => .ok (.done ⟨u, Nat.le_of_lt (Nat.lt_of_le_of_lt hu ht)⟩)
      | .ok (.more frame outer ⟨u, hu⟩) =>
        .ok (.more frame outer ⟨u, Nat.le_of_lt (Nat.lt_of_le_of_lt hu ht)⟩) :
          Except Fault (Follow s)) r) :
    Follows (skipClosers true next outer t) r := by
  cases hx : skipClosers true next outer t with
  | error f =>
      rw [hx] at h
      exact absurd h not_follows_error
  | ok follow =>
      rw [hx] at h
      cases follow with
      | done rest =>
          obtain rfl := eq_of_follows_done h
          exact .done ⟨_, rfl⟩
      | more frame outer rest => exact .more ⟨_, rfl⟩ (next_of_follows_more h)

/-- What the closers behind a part leave closes the innermost frame, or goes on in it. -/
theorem cases_of_follows {began : Bool} {frame : Frame} {outer : List Frame} {s r : List Char}
    (h : Follows (skipClosers began frame outer s) r)
    (around : ∀ next rest t, outer = next :: rest → Follows (skipClosers true next rest t) r →
      Closes outer t r) :
    (∃ s', Blanks s (frame.closer :: s') ∧ Closes outer s' r) ∨
      if began then ∃ s', Blanks s (',' :: s') ∧ Next outer frame s' r
      else ∃ s', Blanks s s' ∧ Next outer frame s' r := by
  rw [skipClosers.eq_def] at h
  split at h
  · exact absurd h not_follows_error
  rename_i c t hskip
  have hblanks := blanks_of_skipBlank hskip
  dsimp only at h
  split at h
  · rename_i hcomma
    obtain ⟨rfl, rfl⟩ := hcomma
    exact .inr ⟨t, hblanks, next_of_follows_more h⟩
  split at h
  · rename_i hcloser
    refine .inl ⟨t, hcloser ▸ hblanks, ?_⟩
    cases outer with
    | nil =>
        obtain rfl := eq_of_follows_done h
        exact .nil t
    | cons next rest =>
        exact around next rest t rfl
          (@follows_of_follows_close _ _ _ _ _ (length_lt_of_skipBlank hskip) h)
  split at h
  · exact absurd h not_follows_error
  · rename_i hbegan
    rw [Bool.not_eq_true] at hbegan
    subst hbegan
    exact .inr ⟨_, hblanks, next_of_follows_more h⟩

/-- **What the closers behind a part leave closes the open frames.** -/
theorem closes_of_follows {frame : Frame} {outer : List Frame} {s r : List Char}
    (h : Follows (skipClosers true frame outer s) r) : Closes (frame :: outer) s r := by
  induction outer generalizing frame s with
  | nil =>
      obtain ⟨s', closer, rest⟩ | ⟨s', comma, next⟩ := cases_of_follows h nofun
      · exact .close closer rest
      · exact .more comma next
  | cons outermost outer ih =>
      have haround (next : Frame) (rest : List Frame) (t : List Char)
          (heq : outermost :: outer = next :: rest)
          (hrest : Follows (skipClosers true next rest t) r) : Closes (outermost :: outer) t r := by
        obtain ⟨rfl, rfl⟩ := List.cons.inj heq
        exact ih hrest
      obtain ⟨s', closer, rest⟩ | ⟨s', comma, next⟩ := cases_of_follows h haround
      · exact .close closer rest
      · exact .more comma next

theorem Blanks.trans {s t r : List Char} (h : Blanks s t) (h' : Blanks t r) : Blanks s r := by
  obtain ⟨w, hw, rfl⟩ := h
  obtain ⟨w', hw', rfl⟩ := h'
  exact ⟨w ++ w', List.forall_mem_append.mpr ⟨hw, hw'⟩, (List.append_assoc _ _ _).symm⟩

/-- An opening character is the start of a list or an object. -/
theorem spells_of_opened {frame : Frame} {outer : List Frame} {t r : List Char}
    (h : Follows (skipClosers false frame outer t) r) :
    ∃ v s', Spells v (frame.opener :: t) s' ∧ Closes outer s' r := by
  have haround (next : Frame) (rest : List Frame) (t : List Char) (heq : outer = next :: rest)
      (hrest : Follows (skipClosers true next rest t) r) : Closes outer t r :=
    heq ▸ closes_of_follows hrest
  obtain ⟨s', closer, rest⟩ | ⟨s', before', next⟩ := cases_of_follows h haround
  · cases frame with
    | list => exact ⟨_, s', .emptyList closer, rest⟩
    | object => exact ⟨_, s', .emptyObject closer, rest⟩
  · cases next with
    | element before value rest =>
        obtain ⟨vs, s'', hvs, hrest⟩ := elements_of_closes rest rfl (before'.trans before) value
        exact ⟨_, s'', .list hvs, hrest⟩
    | member name before value rest =>
        obtain ⟨before'', quoted, after⟩ := name
        obtain ⟨ms, s'', hms, hrest⟩ :=
          members_of_closes rest rfl (.mk (before'.trans before'') quoted after) before value
        exact ⟨_, s'', .object hms, hrest⟩

/-- What follows a part closes the frames that it lies in. -/
theorem spells_of_followPart {opened : Option Frame} {outer : List Frame} {s t r : List Char}
    (part : Yields (skipPart s) opened t) (h : Follows (followPart opened outer t) r) :
    ∃ v s', Spells v s s' ∧ Closes outer s' r := by
  obtain ⟨rfl, v, value⟩ | ⟨frame, rfl, rfl⟩ := spells_of_skipPart part
  · refine ⟨v, t, value, ?_⟩
    cases outer with
    | nil =>
        obtain rfl := eq_of_follows_done h
        exact .nil t
    | cons frame outer => exact closes_of_follows h
  · exact spells_of_opened h

/-- **Nothing but values is skipped**, and what closes the frames that they lie in.  The value is
put together on the way back from the parts that were taken, the innermost first. -/
theorem spells_of_skipNested {outer : List Frame} {s r : List Char}
    (h : Leaves (skipNested outer s) r) :
    ∃ v s₁ s₂, Blanks s s₁ ∧ Spells v s₁ s₂ ∧ Closes outer s₂ r := by
  obtain ⟨n, hn⟩ : ∃ n, s.length = n := ⟨_, rfl⟩
  induction n using Nat.strong_induction_on generalizing outer s with
  | _ n ih =>
      obtain ⟨_, h⟩ := h
      rw [skipNested.eq_def] at h
      dsimp only at h
      split at h
      · cases h
      rename_i opened t ht hpart
      have hshort : t.length < s.length := Nat.lt_of_lt_of_le ht (length_skipBlank_le s)
      suffices hfollow : Follows (followPart opened outer t) r by
        obtain ⟨v, s', value, rest⟩ := spells_of_followPart ⟨ht, hpart⟩ hfollow
        exact ⟨v, _, s', blanks_skipBlank s, value, rest⟩
      split at h
      · cases h
      · rename_i hdone
        cases h
        exact .done ⟨_, hdone⟩
      · rename_i u hu hmore
        split at h
        · rename_i hrest
          cases h
          obtain ⟨v, s₁, s₂, before, value, rest⟩ := ih u.length (by omega) ⟨_, hrest⟩ rfl
          exact .more ⟨_, hmore⟩ (.element before value rest)
        · cases h
      · rename_i u hu hmore
        split at h
        · cases h
        rename_i w hw hkey
        split at h
        · rename_i hrest
          cases h
          obtain ⟨v, s₁, s₂, before, value, rest⟩ := ih w.length (by omega) ⟨_, hrest⟩ rfl
          obtain ⟨key, name⟩ := key_of_skipKey ⟨_, hkey⟩
          exact .more ⟨_, hmore⟩ (.member name before value rest)
        · cases h

/-- **Nothing but values is skipped.**  Together with `leaves_skipValue` this says that skipping
takes what the grammar calls a value. -/
theorem spells_of_skipValue {s r : List Char} (h : Leaves (skipValue s) r) :
    ∃ v s₁, Blanks s s₁ ∧ Spells v s₁ r := by
  obtain ⟨v, s₁, s₂, before, value, rest⟩ := spells_of_skipNested h
  cases rest
  exact ⟨v, s₁, before, value⟩

end ShaderSketch.Json
