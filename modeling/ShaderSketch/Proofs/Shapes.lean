import ShaderSketch.Json.Decode
import ShaderSketch.Proofs.Skipping

/-!
# Shapes, and the parts of lists and objects

A reader of a fixed shape takes a spelling of any value, and then what it makes of it is a function
of the value alone, the shape.  Here is what that means, and that it is so for the elements of a
list and the members of an object if it is so for each value in them.

## Main definitions

* `Json.Value.text?`, `Json.Value.elements?`, `Json.Value.record?` — the shapes
* `Json.Takes` — a reader that follows a shape
* `Json.Separated`, `Json.Ongoing` — what is in front inside of a list or an object
* `Json.Reaches` — how the reading of elements or members ends

## Main results

* `Json.reaches_elementsTail`, `Json.ongoing_of_elementsTail` : the elements of a list
* `Json.reaches_membersTail`, `Json.ongoing_of_membersTail` : the members of an object

## Design notes

A shape is refused at the first place where the text departs from it, so nothing is said about the
rest of a text that is refused.  It is enough that a refused value is refused in every spelling, and
that a text that is taken is a spelling of something.
-/

namespace ShaderSketch.Json

variable {α : Type}

/-! ## Shapes -/

/-- The text of a string. -/
def Value.text? : Value → Option String
  | .string content => content.map String.ofList
  | _ => none

/-- The elements of a list, each of one shape. -/
def Value.elements? (item : Value → Option α) : Value → Option (List α)
  | .list vs => vs.mapM item
  | _ => none

/-- The value of one field among the members of an object, given what was found before. -/
def collect (field : String) (item : Value → Option α) :
    Option α → List (Option (List Char) × Value) → Option (Option α)
  | found, [] => some found
  | _, (none, _) :: _ => none
  | found, (some key, v) :: ms =>
    if key = field.toList then
      if found.isSome then none else (item v).bind fun a => collect field item (some a) ms
    else collect field item found ms

/-- The one field of a record, written as an object or as a list. -/
def Value.record? (field : String) (item : Value → Option α) : Value → Option α
  | .list [v] => item v
  | .object ms => (collect field item none ms).join
  | _ => none

/-- A reader that takes every value that has a shape, refuses every other value, and takes nothing
but values.  A reader that is known by this can be used without being opened, and readers that are
put together of such readers are known by it again. -/
structure Takes (reader : Reader α) (shape : Value → Option α) : Prop where
  outcome {v : Value} {s s₁ r : List Char} (before : Blanks s s₁) (value : Spells v s₁ r) :
    Outcome (reader s) (shape v) r
  value {a : α} {s r : List Char} (h : Yields (reader s) a r) :
    ∃ v s₁, Blanks s s₁ ∧ Spells v s₁ r

/-! ## What is in front -/

/-- The inside of a list or an object up to its closing character.  It is the grammar once more,
told from the point where the reader is: behind the opening character. -/
inductive Within (item : Phrase α) (closer : Char) : Phrase (List α)
  | none {s r : List Char} (blank : Blanks s (closer :: r)) : Within item closer [] s r
  | some {as : List α} {s r : List Char} (items : SepBy item as s (closer :: r)) :
      Within item closer as s r

/-- A value without parts that is no string. -/
inductive Value.Atom : Value → Prop
  | null : Value.Atom .null
  | boolean (b : Bool) : Value.Atom (.boolean b)
  | number : Value.Atom .number

/-- The kinds of values, by their first characters. -/
theorem Spells.kind {v : Value} {s r : List Char} (h : Spells v s r) :
    (∃ ps t, v = .string (content? ps) ∧ s = '"' :: t ∧ Pieces ps t ('"' :: r)) ∨
      (∃ vs t, v = .list vs ∧ s = '[' :: t ∧ Within (Padded Spells) ']' vs t r) ∨
      (∃ ms t, v = .object ms ∧ s = '\x7b' :: t ∧ Within (Member Spells) '\x7d' ms t r) ∨
      (∃ c t, v.Atom ∧ s = c :: t ∧ c ≠ '"' ∧ c ≠ '[' ∧ c ≠ '\x7b') := by
  have hdigit : ∀ d ∈ "0123456789".toList, d ≠ '"' ∧ d ≠ '[' ∧ d ≠ '\x7b' :=
    List.all_iff_forall_prop.mp (by decide)
  cases h with
  | null => exact .inr (.inr (.inr ⟨_, _, .null, rfl, by decide⟩))
  | true => exact .inr (.inr (.inr ⟨_, _, .boolean _, rfl, by decide⟩))
  | false => exact .inr (.inr (.inr ⟨_, _, .boolean _, rfl, by decide⟩))
  | number numeral =>
      refine .inr (.inr (.inr ?_))
      cases numeral with
      | negative => exact ⟨_, _, .number, rfl, by decide⟩
      | positive magnitude =>
          obtain ⟨whole, -, -⟩ := magnitude
          cases whole with
          | zero => exact ⟨_, _, .number, rfl, by decide⟩
          | digits _ digits =>
              obtain ⟨first, -⟩ := digits
              exact ⟨_, _, .number, rfl, hdigit _ first⟩
  | string quoted =>
      obtain ⟨inside⟩ := quoted
      exact .inl ⟨_, _, rfl, rfl, inside⟩
  | emptyList inside => exact .inr (.inl ⟨_, _, rfl, rfl, .none inside⟩)
  | list elements => exact .inr (.inl ⟨_, _, rfl, rfl, .some elements⟩)
  | emptyObject inside => exact .inr (.inr (.inl ⟨_, _, rfl, rfl, .none inside⟩))
  | object members => exact .inr (.inr (.inl ⟨_, _, rfl, rfl, .some members⟩))

theorem Within.spells_list {vs : List Value} {s r : List Char}
    (h : Within (Padded Spells) ']' vs s r) : Spells (.list vs) ('[' :: s) r := by
  cases h with
  | none blank => exact .emptyList blank
  | some items => exact .list items

theorem Within.spells_object {ms : List (Option (List Char) × Value)} {s r : List Char}
    (h : Within (Member Spells) '\x7d' ms s r) : Spells (.object ms) ('\x7b' :: s) r := by
  cases h with
  | none blank => exact .emptyObject blank
  | some items => exact .object items

/-- What is in front of the next item: a comma, unless it is the first one.  A comma belongs to the
item behind it, as in the readers, and not to the one in front as in the grammar. -/
inductive Separated : Bool → List Char → List Char → Prop
  | first (s : List Char) : Separated false s s
  | comma {s s' : List Char} (comma : Blanks s (',' :: s')) : Separated true s s'

/-- What is in front of what is left of a list or an object, until it is closed. -/
def Ongoing (item : Phrase α) (closer : Char) (began : Bool) (s r : List Char) : Prop :=
  Blanks s (closer :: r) ∨ ∃ s' as, Separated began s s' ∧ SepBy item as s' (closer :: r)

/-- An item and what is left behind it. -/
theorem Ongoing.cons {item : Phrase α} {closer : Char} {began : Bool} {a : α}
    {s s' w r : List Char} (sep : Separated began s s') (one : ∀ t, Blanks w t → item a s' t)
    (h : Ongoing item closer true w r) : Ongoing item closer began s r := by
  obtain hclose | ⟨s'', as, hcomma, items⟩ := h
  · exact .inr ⟨s', [a], sep, .last (one _ hclose)⟩
  · cases hcomma with
    | comma comma => exact .inr ⟨s', a :: as, sep, .more (one _ comma) items⟩

theorem Ongoing.within {item : Phrase α} {closer : Char} {s r : List Char}
    (h : Ongoing item closer false s r) : ∃ as, Within item closer as s r := by
  obtain hclose | ⟨s', as, ⟨⟩, items⟩ := h
  · exact ⟨[], .none hclose⟩
  · exact ⟨as, .some items⟩

/-! ## How the parts of a list or an object are read -/

/-- There is a next item, and this is the text in front of it. -/
def Goes {p : List Char → Prop} (x : Except Fault (Option (Subtype p))) (r : List Char) : Prop :=
  ∃ h, x = .ok (some ⟨r, h⟩)

/-- Items are read, if there is something to make of them, up to blanks in front of a text; and
else they are refused. -/
def Reaches {p : List Char → Prop} (x : Except Fault (α × Subtype p)) (value : Option α)
    (r : List Char) : Prop :=
  match value with
  | some a => ∃ t, Yields x a t ∧ Blanks t r
  | none => Fails x

theorem Reaches.of_eq {p q : List Char → Prop} {x : Except Fault (α × Subtype p)}
    {y : Except Fault (α × Subtype q)} {value : Option α} {r : List Char} (h : Reaches x value r)
    (hok : ∀ {a t ht}, x = .ok (a, ⟨t, ht⟩) → ∃ ht', y = .ok (a, ⟨t, ht'⟩))
    (herror : ∀ {f}, x = .error f → y = .error f) : Reaches y value r := by
  cases value with
  | none =>
      obtain ⟨f, hf⟩ := h
      exact ⟨f, herror hf⟩
  | some a =>
      obtain ⟨t, ⟨_, ht⟩, hblanks⟩ := h
      exact ⟨t, hok ht, hblanks⟩

/-! ### Elements -/

theorem nextElement_of_close {began : Bool} {s r : List Char} (h : Blanks s (']' :: r)) :
    nextElement began s = .ok none := by
  have hskip := skipBlank_of_blanks_cons h (by decide)
  unfold nextElement
  split
  all_goals
    rename_i hcons
    cases hskip.symm.trans hcons
  · rfl
  · contradiction

/-- Where an element may come and the list is not closed, the reading goes on with it. -/
theorem goes_nextElement {began : Bool} {c : Char} {s s' t : List Char}
    (sep : Separated began s s') (hskip : skipBlank s' = c :: t) (hc : c ≠ ']') :
    Goes (nextElement began s) (c :: t) := by
  cases sep with
  | first =>
      unfold nextElement
      split
      all_goals
        rename_i hcons
        cases hskip.symm.trans hcons
      · exact (hc rfl).elim
      · exact ⟨_, rfl⟩
  | comma comma =>
      have hcomma := skipBlank_of_blanks_cons comma (by decide)
      unfold nextElement
      split
      all_goals
        rename_i hcons
        cases hcomma.symm.trans hcons
      rw [if_pos rfl, if_pos rfl]
      dsimp only
      split
      all_goals
        rename_i hnext
        cases hskip.symm.trans hnext
      rw [if_neg hc]
      exact ⟨_, rfl⟩

theorem Spells.goes_nextElement {v : Value} {began : Bool} {s s' s₁ r : List Char}
    (value : Spells v s₁ r) (sep : Separated began s s') (before : Blanks s' s₁) :
    Goes (nextElement began s) s₁ := by
  have hskip := value.skipBlank before
  obtain ⟨c, t, rfl, hc⟩ := value.head
  refine ShaderSketch.Json.goes_nextElement sep hskip ?_
  rintro rfl
  exact hc (by decide)

/-- The reading goes on only where a comma stood, or where none is due. -/
theorem separated_of_goes_nextElement {began : Bool} {s u : List Char}
    (h : Goes (nextElement began s) u) : ∃ s', Separated began s s' ∧ Blanks s' u := by
  obtain ⟨_, h⟩ := h
  unfold nextElement at h
  split at h
  · cases h
  · cases h
  · rename_i c t hclose hcons
    split at h
    · rename_i hbegan
      subst hbegan
      split at h
      · rename_i hcomma
        subst hcomma
        dsimp only at h
        split at h
        · cases h
        · rename_i d w hnext
          split at h
          · cases h
          · cases h
            exact ⟨t, .comma (blanks_of_skipBlank hcons), blanks_of_skipBlank hnext⟩
      · cases h
    · rename_i hbegan
      rw [Bool.not_eq_true] at hbegan
      subst hbegan
      cases h
      exact ⟨s, .first s, blanks_of_skipBlank hcons⟩

theorem leaves_endList {s r : List Char} (h : Blanks s (']' :: r)) : Leaves (endList s) r := by
  have hskip := skipBlank_of_blanks_cons h (by decide)
  unfold endList
  dsimp only
  split
  all_goals
    rename_i hcons
    cases hskip.symm.trans hcons
  · exact ⟨_, rfl⟩
  · contradiction

theorem close_of_endList {s r : List Char} (h : Leaves (endList s) r) : Blanks s (']' :: r) := by
  obtain ⟨_, h⟩ := h
  unfold endList at h
  dsimp only at h
  split at h
  · cases h
  · rename_i hclose
    cases h
    exact blanks_of_skipBlank hclose
  · split at h <;> cases h
  · cases h

/-- **One element is read, and then those behind it.**  Where the one or the rest has no shape, the
whole has none: this is the `bind`, and the reading is refused then. -/
theorem reaches_elementsTail_cons {item : Reader α} {began : Bool} {a : Option α}
    {as : Option (List α)} {s t u r : List Char} (next : Goes (nextElement began s) t)
    (one : Outcome (item t) a u) (more : Reaches (elementsTail item true u) as r) :
    Reaches (elementsTail item began s) (a.bind fun a => as.map (a :: ·)) r := by
  obtain ⟨_, hnext⟩ := next
  rw [elementsTail, hnext]
  dsimp only
  cases a with
  | none =>
      obtain ⟨f, hf⟩ := one
      rw [hf]
      exact ⟨f, rfl⟩
  | some a =>
      obtain ⟨_, hone⟩ := one
      rw [hone]
      dsimp only
      cases as with
      | none =>
          obtain ⟨f, hf⟩ := more
          rw [hf]
          exact ⟨f, rfl⟩
      | some as =>
          obtain ⟨w, ⟨_, hmore⟩, hw⟩ := more
          rw [hmore]
          exact ⟨w, ⟨_, rfl⟩, hw⟩

theorem reaches_elementsTail_nil {item : Reader α} {began : Bool} {s r : List Char}
    (h : Blanks s (']' :: r)) : Reaches (elementsTail item began s) (some []) (']' :: r) := by
  rw [elementsTail, nextElement_of_close h]
  exact ⟨s, ⟨_, rfl⟩, h⟩

theorem mapM_cons_eq (item : Value → Option α) (v : Value) (vs : List Value) :
    (v :: vs).mapM item = (item v).bind fun a => (vs.mapM item).map (a :: ·) := by
  rw [List.mapM_cons]
  cases item v with
  | none => rfl
  | some a => cases vs.mapM item <;> rfl

/-- **The elements of a list are read**, each as its shape says.  The induction is on the elements,
and the readers go along with it; whether a comma is due is known from whether something began. -/
theorem reaches_elementsTail {item : Reader α} {shape : Value → Option α}
    (takes : Takes item shape) {vs : List Value} {began : Bool} {s₀ s t r : List Char}
    (h : SepBy (Padded Spells) vs s t) (ht : t = ']' :: r) (sep : Separated began s₀ s) :
    Reaches (elementsTail item began s₀) (vs.mapM shape) (']' :: r) := by
  induction h generalizing began s₀ with
  | last one =>
      subst ht
      obtain ⟨before, value, after⟩ := one
      rw [mapM_cons_eq]
      exact reaches_elementsTail_cons (value.goes_nextElement sep before)
        (takes.outcome (blanks_refl _) value) (reaches_elementsTail_nil after)
  | more one _ ih =>
      obtain ⟨before, value, after⟩ := one
      rw [mapM_cons_eq]
      exact reaches_elementsTail_cons (value.goes_nextElement sep before)
        (takes.outcome (blanks_refl _) value) (ih ht (.comma after))

/-- **Only the elements of a list are read.**  This direction goes by the length of the text, since
nothing but the text is given. -/
theorem ongoing_of_elementsTail {item : Reader α} {shape : Value → Option α}
    (takes : Takes item shape) {began : Bool} {as : List α} {s t r : List Char}
    (h : Yields (elementsTail item began s) as t) (close : Blanks t (']' :: r)) :
    Ongoing (Padded Spells) ']' began s r := by
  obtain ⟨n, hn⟩ : ∃ n, s.length = n := ⟨_, rfl⟩
  induction n using Nat.strong_induction_on generalizing began as s with
  | _ n ih =>
      obtain ⟨_, h⟩ := h
      rw [elementsTail] at h
      split at h
      · cases h
      · cases h
        exact .inl close
      · rename_i u hu hnext
        obtain ⟨s', sep, hblanks⟩ := separated_of_goes_nextElement ⟨_, hnext⟩
        split at h
        · cases h
        rename_i a w hw hone
        obtain ⟨v, s₁, before, value⟩ := takes.value ⟨hw, hone⟩
        split at h
        · rename_i hmore
          cases h
          have hrest := ih w.length (by omega) ⟨_, hmore⟩ rfl
          exact hrest.cons sep fun t after => .mk (hblanks.trans before) value after
        · cases h

/-! ### Members -/

theorem nextKey_of_close {began : Bool} {s r : List Char} (h : Blanks s ('\x7d' :: r)) :
    nextKey began s = .ok none := by
  have hskip := skipBlank_of_blanks_cons h (by decide)
  unfold nextKey
  dsimp only
  split
  all_goals
    rename_i hcons
    cases hskip.symm.trans hcons
  · rfl
  · contradiction

/-- Where a member is due, the reading goes on behind the quote of its key. -/
theorem goes_nextKey {began : Bool} {s s' t : List Char} (sep : Separated began s s')
    (quote : Blanks s' ('"' :: t)) : Goes (nextKey began s) t := by
  have hquote := skipBlank_of_blanks_cons quote (by decide)
  cases sep with
  | first =>
      unfold nextKey
      dsimp only
      split
      all_goals
        rename_i hcons
        cases hquote.symm.trans hcons
      exact ⟨_, rfl⟩
  | comma comma =>
      have hcomma := skipBlank_of_blanks_cons comma (by decide)
      unfold nextKey
      dsimp only
      split
      all_goals
        rename_i hcons
        cases hcomma.symm.trans hcons
      rw [if_pos rfl, if_pos rfl]
      split
      all_goals
        rename_i hnext
        cases hquote.symm.trans hnext
      · exact ⟨_, rfl⟩
      · contradiction

/-- It goes on only where such a quote stood, and a comma before it unless none is due. -/
theorem separated_of_goes_nextKey {began : Bool} {s t : List Char} (h : Goes (nextKey began s) t) :
    ∃ s', Separated began s s' ∧ Blanks s' ('"' :: t) := by
  obtain ⟨_, h⟩ := h
  unfold nextKey at h
  dsimp only at h
  split at h
  · cases h
  · cases h
  · rename_i c u hclose hcons
    split at h
    · rename_i hbegan
      subst hbegan
      split at h
      · rename_i hcomma
        subst hcomma
        split at h
        · cases h
        · rename_i hnext
          cases h
          exact ⟨u, .comma (blanks_of_skipBlank hcons), blanks_of_skipBlank hnext⟩
        · cases h
        · cases h
      · cases h
    · rename_i hbegan
      rw [Bool.not_eq_true] at hbegan
      subst hbegan
      split at h
      · rename_i hquote
        subst hquote
        cases h
        exact ⟨s, .first s, blanks_of_skipBlank hcons⟩
      · cases h

theorem leaves_colon {s r : List Char} (h : Blanks s (':' :: r)) : Leaves (colon s) r := by
  have hskip := skipBlank_of_blanks_cons h (by decide)
  unfold colon
  dsimp only
  split
  all_goals
    rename_i hcons
    cases hskip.symm.trans hcons
  · exact ⟨_, rfl⟩
  · contradiction

theorem colon_of_leaves {s r : List Char} (h : Leaves (colon s) r) : Blanks s (':' :: r) := by
  obtain ⟨_, h⟩ := h
  unfold colon at h
  dsimp only at h
  split at h
  · cases h
  · rename_i hcolon
    cases h
    exact blanks_of_skipBlank hcolon
  · cases h

theorem leaves_endObject {s r : List Char} (h : Blanks s ('\x7d' :: r)) :
    Leaves (endObject s) r := by
  have hskip := skipBlank_of_blanks_cons h (by decide)
  unfold endObject
  dsimp only
  split
  all_goals
    rename_i hcons
    cases hskip.symm.trans hcons
  · exact ⟨_, rfl⟩
  · contradiction

theorem close_of_endObject {s r : List Char} (h : Leaves (endObject s) r) :
    Blanks s ('\x7d' :: r) := by
  obtain ⟨_, h⟩ := h
  unfold endObject at h
  dsimp only at h
  split at h
  · cases h
  · rename_i hclose
    cases h
    exact blanks_of_skipBlank hclose
  · cases h
  · cases h

/-- **One member is read, and then those behind it**: its value is needed if the key is that of the
field, and else it is skipped.  What was found so far is arbitrary, so that a field which comes a
second time is covered by the same step. -/
theorem reaches_membersTail_cons {field : String} {value : Reader α} {shape : Value → Option α}
    {found : Option α} {began : Bool} {key : Option (List Char)} {v : Value}
    {ms : List (Option (List Char) × Value)} {s t u w x r : List Char}
    (next : Goes (nextKey began s) t) (name : Outcome (stringTail t) key u)
    (hcolon : Leaves (colon u) w) (one : Outcome (value w) (shape v) x)
    (skipped : Leaves (skipValue w) x)
    (more : ∀ found,
      Reaches (membersTail field value found true x) (collect field shape found ms) r) :
    Reaches (membersTail field value found began s)
      (collect field shape found ((key, v) :: ms)) r := by
  obtain ⟨_, hnext⟩ := next
  obtain ⟨_, hcolon⟩ := hcolon
  rw [membersTail, hnext]
  dsimp only
  cases key with
  | none =>
      obtain ⟨f, hf⟩ := name
      rw [hf]
      exact ⟨f, rfl⟩
  | some key =>
      obtain ⟨_, hname⟩ := name
      rw [hname, collect]
      dsimp only
      split
      · cases found with
        | some a => exact ⟨_, rfl⟩
        | none =>
            rw [Option.isSome_none, if_neg Bool.false_ne_true]
            dsimp only
            rw [hcolon]
            dsimp only
            cases hv : shape v with
            | none =>
                rw [hv] at one
                obtain ⟨f, hf⟩ := one
                rw [hf]
                exact ⟨f, rfl⟩
            | some a =>
                rw [hv] at one
                obtain ⟨_, hone⟩ := one
                rw [hone]
                dsimp only
                exact (more (some a)).of_eq (fun h => by rw [h]; exact ⟨_, rfl⟩) fun h => by rw [h]
      · obtain ⟨_, hskipped⟩ := skipped
        rw [hcolon]
        dsimp only
        rw [hskipped]
        dsimp only
        exact (more found).of_eq (fun h => by rw [h]; exact ⟨_, rfl⟩) fun h => by rw [h]

theorem reaches_membersTail_nil {field : String} {value : Reader α} {found : Option α}
    {began : Bool} {s r : List Char} (h : Blanks s ('\x7d' :: r)) :
    Reaches (membersTail field value found began s) (some found) ('\x7d' :: r) := by
  rw [membersTail, nextKey_of_close h]
  exact ⟨s, ⟨_, rfl⟩, h⟩

/-- **The members of an object are read**, as the shape says.  A key without a content is refused
even where its value would be skipped, since a key is looked at before anything is skipped. -/
theorem reaches_membersTail {field : String} {value : Reader α} {shape : Value → Option α}
    (takes : Takes value shape) {ms : List (Option (List Char) × Value)} {found : Option α}
    {began : Bool} {s₀ s t r : List Char} (h : SepBy (Member Spells) ms s t)
    (ht : t = '\x7d' :: r) (sep : Separated began s₀ s) :
    Reaches (membersTail field value found began s₀) (collect field shape found ms)
      ('\x7d' :: r) := by
  induction h generalizing found began s₀ with
  | last one =>
      subst ht
      obtain ⟨⟨before, ⟨inside⟩, colon⟩, space, spelled, after⟩ := one
      exact reaches_membersTail_cons (goes_nextKey sep before) (outcome_stringTail inside)
        (leaves_colon colon) (takes.outcome space spelled)
        (leaves_skipValue space spelled (ends_of_blanks after (by decide)))
        fun _ => reaches_membersTail_nil after
  | more one _ ih =>
      obtain ⟨⟨before, ⟨inside⟩, colon⟩, space, spelled, after⟩ := one
      exact reaches_membersTail_cons (goes_nextKey sep before) (outcome_stringTail inside)
        (leaves_colon colon) (takes.outcome space spelled)
        (leaves_skipValue space spelled (ends_of_blanks after (by decide)))
        fun _ => ih ht (.comma after)

/-- **Only the members of an object are read.**  Skipped values are values too, which is what keeps
a text from being decoded that is none. -/
theorem ongoing_of_membersTail {field : String} {value : Reader α} {shape : Value → Option α}
    (takes : Takes value shape) {found a : Option α} {began : Bool} {s t r : List Char}
    (h : Yields (membersTail field value found began s) a t) (close : Blanks t ('\x7d' :: r)) :
    Ongoing (Member Spells) '\x7d' began s r := by
  obtain ⟨n, hn⟩ : ∃ n, s.length = n := ⟨_, rfl⟩
  induction n using Nat.strong_induction_on generalizing found began s with
  | _ n ih =>
      obtain ⟨_, h⟩ := h
      rw [membersTail] at h
      split at h
      · cases h
      · cases h
        exact .inl close
      rename_i u hu hnext
      obtain ⟨s', sep, quote⟩ := separated_of_goes_nextKey ⟨_, hnext⟩
      split at h
      · cases h
      rename_i key w hw hname
      obtain ⟨ps, inside⟩ := pieces_of_stringTail ⟨_, hname⟩
      have hcons {x y : List Char} (hcolon : Leaves (colon w) x)
          (spelled : ∃ v s₁, Blanks x s₁ ∧ Spells v s₁ y)
          (hrest : Ongoing (Member Spells) '\x7d' true y r) :
          Ongoing (Member Spells) '\x7d' began s r := by
        obtain ⟨v, s₁, space, spelled⟩ := spelled
        exact hrest.cons sep fun t after =>
          .mk (.mk quote (.mk inside) (colon_of_leaves hcolon)) (.mk space spelled after)
      split at h
      · split at h
        · cases h
        split at h
        · cases h
        rename_i x hx hcolon
        split at h
        · cases h
        rename_i b y hy hone
        split at h
        · rename_i hmore
          cases h
          exact hcons ⟨_, hcolon⟩ (takes.value ⟨_, hone⟩)
            (ih y.length (by omega) ⟨_, hmore⟩ rfl)
        · cases h
      · split at h
        · cases h
        rename_i x hx hcolon
        split at h
        · cases h
        rename_i y hy hskip
        split at h
        · rename_i hmore
          cases h
          exact hcons ⟨_, hcolon⟩ (spells_of_skipValue ⟨_, hskip⟩)
            (ih y.length (by omega) ⟨_, hmore⟩ rfl)
        · cases h

end ShaderSketch.Json
