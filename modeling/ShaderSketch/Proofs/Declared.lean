import ShaderSketch.Proofs.Preamble

/-!
# Declarations as they are written

A declaration is a line with a qualifier, the words of a type, a name, perhaps the size of an array,
and a semicolon, behind which anything may follow.  Here is what such lines look like, without a
reader, and what other lines there may be between them; the names that are read from a source are
those that were written into it.

## Main definitions

* `Gl.qualifiers` — the words that a declaration starts with
* `Gl.Declaring` — the lines that declare a name
* `Gl.Silent` — lines that declare nothing
* `Gl.Listing` — lines with the names that they declare
* `Gl.Foreign`, `Text.Interspersed` — lines that may be put between others
* `Gl.Recovered` — what is read from sources under a qualifier

## Main results

* `Text.lastWord?_append` : the last word of a text
* `Gl.Declaring.declaredName?`, `Gl.Silent.declaredName?` : what one line declares
* `Gl.declaredNames_intercalate` : what lines declare that are joined
* `Gl.recovered_of_qualifier` : the names that are read are those that were written

## Design notes

Lines are cut at line feeds alone, so that a line may end in a carriage return.  A reader takes that
for a part of the line end; it is a blank, and no declaration depends on it.
-/

namespace ShaderSketch

/-! ## Words -/

namespace Text

/-- What is found to hold of all characters of a text, one after the other, holds of them. -/
theorem forall_of_all {p : Char → Prop} [DecidablePred p] {s : List Char}
    (h : s.all (decide <| p ·) = true) : ∀ c ∈ s, p c := by
  simpa using h

theorem afterStart?_eq_some {start s rest : List Char} :
    afterStart? start s = some rest ↔ s = start ++ rest := by
  induction start generalizing s with
  | nil => simp [afterStart?]
  | cons a start ih =>
      cases s with
      | nil => simp [afterStart?]
      | cons c s =>
          rw [afterStart?]
          split
          · next heq => simp [ih, heq]
          · next hne => simp [Ne.symm hne]

/-- The blanks in front of a text that starts with none. -/
theorem trimStart_append {margin s : List Char} (hmargin : ∀ c ∈ margin, isBlank c)
    (hs : ∀ c ∈ s.head?, isBlank c = false) : trimStart (margin ++ s) = s := by
  rw [trimStart, List.dropWhile_append_of_pos hmargin]
  cases s with
  | nil => rfl
  | cons c s => exact List.dropWhile_cons_of_neg (by simp [hs c rfl])

/-- A text of blanks, and no other, has no last word. -/
theorem lastWord?_eq_none {s : List Char} : lastWord? s = none ↔ ∀ c ∈ s, isBlank c := by
  have hnone : lastWord? s = none ↔ (s.reverse.dropWhile isBlank).takeWhile (!isBlank ·) = [] := by
    unfold lastWord?
    split
    · next hnil => exact iff_of_true rfl hnil
    · next hne => exact iff_of_false nofun hne
  have hall : (∀ c ∈ s, isBlank c) ↔ s.reverse.dropWhile isBlank = [] := by
    simp only [List.dropWhile_eq_nil_iff, List.mem_reverse]
  rw [hnone, hall]
  refine ⟨fun htake => ?_, fun hdrop => by rw [hdrop, List.takeWhile_nil]⟩
  -- what is left behind the blanks would start with a word
  by_contra hdrop
  obtain ⟨c, rest, hrest⟩ := List.exists_cons_of_ne_nil hdrop
  have hhead := List.head?_dropWhile_not isBlank s.reverse
  rw [hrest] at htake hhead
  have hvisible : isBlank c = false := hhead
  rw [List.takeWhile_cons_of_pos (by simp [hvisible])] at htake
  cases htake

/-- **The last word of a text** stands behind a blank, and only blanks stand behind it.  A blank has
to stand in front of the word: without one it would be longer than that. -/
theorem lastWord?_append {front word space : List Char} {b : Char} (hb : isBlank b)
    (hne : word ≠ []) (hword : ∀ c ∈ word, isBlank c = false) (hspace : ∀ c ∈ space, isBlank c) :
    lastWord? (front ++ b :: (word ++ space)) = some word := by
  have hreverse : (front ++ b :: (word ++ space)).reverse =
      space.reverse ++ (word.reverse ++ b :: front.reverse) := by simp
  have hvisible : ∀ c ∈ word.reverse, (!isBlank c) = true := fun c hc => by
    rw [hword c (List.mem_reverse.mp hc), Bool.not_false]
  have hstart : ∀ c ∈ (word.reverse ++ b :: front.reverse).head?, isBlank c = false := by
    rw [List.head?_append_of_ne_nil _ (by simpa using hne), List.head?_reverse]
    exact fun c hc => hword c (List.mem_of_getLast? hc)
  have hdrop : (space.reverse ++ (word.reverse ++ b :: front.reverse)).dropWhile isBlank =
      word.reverse ++ b :: front.reverse :=
    trimStart_append (fun c hc => hspace c (List.mem_reverse.mp hc)) hstart
  have htake : (word.reverse ++ b :: front.reverse).takeWhile (!isBlank ·) = word.reverse := by
    rw [List.takeWhile_append_of_pos hvisible, List.takeWhile_cons_of_neg (by simp [hb]),
      List.append_nil]
  rw [lastWord?, hreverse, hdrop, htake]
  split
  · next hnil => exact absurd (List.reverse_eq_nil_iff.mp hnil) hne
  · rw [List.reverse_reverse]

/-! ## Lines between lines -/

/-- Lines, and the same with more lines of a kind between them. -/
inductive Interspersed (extra : List Char → Prop) : List (List Char) → List (List Char) → Prop
  | nil : Interspersed extra [] []
  | keep {ls ls' : List (List Char)} (line : List Char) (rest : Interspersed extra ls ls') :
      Interspersed extra (line :: ls) (line :: ls')
  | add {ls ls' : List (List Char)} {line : List Char} (h : extra line)
      (rest : Interspersed extra ls ls') : Interspersed extra ls (line :: ls')

theorem Interspersed.subset {extra : List Char → Prop} {ls ls' : List (List Char)}
    (h : Interspersed extra ls ls') : ls ⊆ ls' := by
  induction h with
  | nil => exact List.Subset.refl _
  | keep line _ ih => exact List.cons_subset_cons line ih
  | add _ _ ih => exact List.subset_cons_of_subset _ ih

/-- Lines that come to nothing change nothing. -/
theorem Interspersed.filterMap_eq {extra : List Char → Prop} {ls ls' : List (List Char)}
    (h : Interspersed extra ls ls') {α : Type} {f : List Char → Option α}
    (hextra : ∀ line, extra line → f line = none) : ls'.filterMap f = ls.filterMap f := by
  induction h with
  | nil => rfl
  | keep line _ ih => rw [List.filterMap_cons, List.filterMap_cons, ih]
  | add h _ ih => rw [List.filterMap_cons_none (hextra _ h), ih]

end Text

namespace Gl

/-! ## Written declarations -/

/-- The words that a declaration starts with. -/
def qualifiers : List String := ["uniform", "varying", "attribute"]

/-- Any number of words without semicolons, each with blanks behind it: the precision and the type
of a declaration.  Precision and type are not told apart, and neither has to be there: only the last
word in front of the semicolon is ever read. -/
inductive Types : List Char → Prop
  | nil : Types []
  | cons {word gap rest : List Char} (nonempty : word ≠ [])
      (visible : ∀ c ∈ word, Text.isBlank c = false ∧ c ≠ ';') (apart : gap ≠ [])
      (blank : ∀ c ∈ gap, Text.isBlank c) (more : Types rest) : Types (word ++ (gap ++ rest))

/-- The size of an array behind a name, if there is one: brackets around anything without blanks and
semicolons. -/
inductive Extent : List Char → Prop
  | none : Extent []
  | some {inside : List Char} (visible : ∀ c ∈ inside, Text.isBlank c = false ∧ c ≠ ';') :
      Extent ('[' :: (inside ++ [']']))

/-- A name: it is not empty, and has no blank, no semicolon and no opening bracket in it. -/
structure Name (name : List Char) : Prop where
  nonempty : name ≠ []
  visible : ∀ c ∈ name, Text.isBlank c = false ∧ c ≠ ';' ∧ c ≠ '['

/-- The lines that declare a name under a qualifier.  A declaration may have blanks in front of it
and anything behind its semicolon, since neither is read. -/
inductive Declaring (qualifier name : List Char) : List Char → Prop
  | mk {margin gap types size space : List Char} (rest : List Char)
      (indented : ∀ c ∈ margin, Text.isBlank c) (apart : gap ≠ [])
      (blank : ∀ c ∈ gap, Text.isBlank c) (typed : Types types) (named : Name name)
      (sized : Extent size) (spaced : ∀ c ∈ space, Text.isBlank c) :
      Declaring qualifier name
        (margin ++ (qualifier ++ (gap ++ (types ++ (name ++ (size ++ (space ++ ';' :: rest)))))))

/-- The lines that declare nothing under a qualifier: they do not start with it and a blank, or
there are only blanks between it and the first semicolon or the end of the line.  These are the only
ways for a line to declare nothing; what has a word between the qualifier and the end of the
declaration declares that word, whatever it is. -/
inductive Silent (qualifier : List Char) : List Char → Prop
  | unqualified {line : List Char}
      (h : ∀ margin c rest, (∀ b ∈ margin, Text.isBlank b) → Text.isBlank c →
        line ≠ margin ++ (qualifier ++ c :: rest)) : Silent qualifier line
  | unnamed {margin gap rest : List Char} (indented : ∀ c ∈ margin, Text.isBlank c)
      (blank : ∀ c ∈ gap, Text.isBlank c) (ends : rest = [] ∨ rest.head? = some ';') :
      Silent qualifier (margin ++ (qualifier ++ (gap ++ rest)))

/-- Lines with the names that they declare. -/
inductive Listing (qualifier : List Char) : List (List Char) → List String → Prop
  | nil : Listing qualifier [] []
  | named {line name : List Char} {ls : List (List Char)} {names : List String}
      (h : Declaring qualifier name line) (rest : Listing qualifier ls names) :
      Listing qualifier (line :: ls) (String.ofList name :: names)
  | silent {line : List Char} {ls : List (List Char)} {names : List String}
      (h : Silent qualifier line) (rest : Listing qualifier ls names) :
      Listing qualifier (line :: ls) names

/-- Lines that are nothing to a qualifier: they start with another one, are blank, or are lines of
the preamble. -/
inductive Foreign (qualifier : String) : List Char → Prop
  | other {margin rest : List Char} (other : String) (known : other ∈ qualifiers)
      (different : other ≠ qualifier) (indented : ∀ c ∈ margin, Text.isBlank c) :
      Foreign qualifier (margin ++ (other.toList ++ rest))
  | blank {line : List Char} (h : ∀ c ∈ line, Text.isBlank c) : Foreign qualifier line
  | preamble {line : List Char} (h : line ∈ Text.lines Shader.preamble.toList) :
      Foreign qualifier line

/-! ## One line -/

theorem not_semicolon_of_blank {c : Char} (h : Text.isBlank c) : c ≠ ';' := by
  rintro rfl
  exact absurd h (by decide)

/-- Types have no semicolon, and end in a blank. -/
theorem Types.spec {types : List Char} (h : Types types) :
    (∀ c ∈ types, c ≠ ';') ∧ ∀ c ∈ types.getLast?, Text.isBlank c := by
  induction h with
  | nil => exact ⟨List.forall_mem_nil _, nofun⟩
  | @cons word gap rest _ visible apart blank _ ih =>
      constructor
      · simp only [List.forall_mem_append]
        exact ⟨fun c hc => (visible c hc).2, fun c hc => not_semicolon_of_blank (blank c hc), ih.1⟩
      · intro c hc
        rw [List.getLast?_append_of_ne_nil _ (by simp [apart])] at hc
        obtain rfl | hrest := List.eq_nil_or_concat' rest
        · rw [List.append_nil] at hc
          exact blank c (List.mem_of_getLast? hc)
        · rw [List.getLast?_append_of_ne_nil _ (by
            obtain ⟨init, last, rfl⟩ := hrest
            simp)] at hc
          exact ih.2 c hc

theorem Extent.visible {size : List Char} (h : Extent size) :
    ∀ c ∈ size, Text.isBlank c = false ∧ c ≠ ';' := by
  cases h with
  | none => exact List.forall_mem_nil _
  | some visible =>
      have hopening : Text.isBlank '[' = false ∧ '[' ≠ ';' := by decide
      have hclosing : Text.isBlank ']' = false ∧ ']' ≠ ';' := by decide
      rw [List.forall_mem_cons, List.forall_mem_append, List.forall_mem_singleton]
      exact ⟨hopening, visible, hclosing⟩

/-- The size of an array is no part of the name. -/
theorem Extent.takeWhile {name size : List Char} (h : Extent size) (hname : Name name) :
    (name ++ size).takeWhile (· ≠ '[') = name := by
  have hwhole : ∀ c ∈ name, decide (c ≠ '[') = true := fun c hc =>
    decide_eq_true (hname.visible c hc).2.2
  rw [List.takeWhile_append_of_pos hwhole]
  cases h with
  | none => simp
  | some visible => rw [List.takeWhile_cons_of_neg (by simp), List.append_nil]

section

variable {qualifier line name : List Char}

/-- What a line declares, if it starts with the qualifier. -/
theorem declaredName?_append {margin rest : List Char} (hne : qualifier ≠ [])
    (hvisible : ∀ c ∈ qualifier, Text.isBlank c = false) (hmargin : ∀ c ∈ margin, Text.isBlank c) :
    declaredName? qualifier (margin ++ (qualifier ++ rest)) =
      if (rest.head?.map Text.isBlank).getD false then
        (Text.lastWord? (rest.takeWhile (· ≠ ';'))).map (·.takeWhile (· ≠ '['))
      else none := by
  have hstart : ∀ c ∈ (qualifier ++ rest).head?, Text.isBlank c = false := by
    rw [List.head?_append_of_ne_nil _ hne]
    exact fun c hc => hvisible c (List.mem_of_mem_head? hc)
  rw [declaredName?, Text.trimStart_append hmargin hstart, Text.afterStart?_eq_some.mpr rfl]
  cases hblank : (rest.head?.map Text.isBlank).getD false with
  | false => simp [hblank]
  | true =>
      simp only [Option.bind_eq_bind, Option.bind_some, hblank, guard_true, if_true]
      cases Text.lastWord? (rest.takeWhile (· ≠ ';')) <;> rfl

/-- **A line that declares a name is read as that.**  The qualifier has to start with a visible
character, since blanks in front of a line are dropped before it is looked for; no semicolon can be
in front of the name, as it would end the declaration. -/
theorem Declaring.declaredName? (h : Declaring qualifier name line) (hne : qualifier ≠ [])
    (hvisible : ∀ c ∈ qualifier, Text.isBlank c = false) :
    declaredName? qualifier line = some name := by
  obtain ⟨rest, indented, apart, blank, typed, named, sized, spaced⟩ := h
  rename_i margin gap types size space
  rw [declaredName?_append hne hvisible indented]
  -- in front of the semicolon is all that is written
  have htake : (gap ++ (types ++ (name ++ (size ++ (space ++ ';' :: rest))))).takeWhile (· ≠ ';') =
      (gap ++ types) ++ ((name ++ size) ++ space) := by
    have hfree : ∀ c ∈ (gap ++ types) ++ ((name ++ size) ++ space), decide (c ≠ ';') = true := by
      simp only [List.forall_mem_append, decide_eq_true_eq]
      exact ⟨⟨fun c hc => not_semicolon_of_blank (blank c hc), typed.spec.1⟩,
        ⟨fun c hc => (named.visible c hc).2.1, fun c hc => (sized.visible c hc).2⟩,
        fun c hc => not_semicolon_of_blank (spaced c hc)⟩
    have hsplit : gap ++ (types ++ (name ++ (size ++ (space ++ ';' :: rest)))) =
        ((gap ++ types) ++ ((name ++ size) ++ space)) ++ ';' :: rest := by simp
    rw [hsplit, List.takeWhile_append_of_pos hfree, List.takeWhile_cons_of_neg (by simp),
      List.append_nil]
  -- the name stands behind a blank, which is of the types or of the gap
  obtain ⟨front, b, hfront, hb⟩ : ∃ front b, gap ++ types = front ++ [b] ∧ Text.isBlank b := by
    have hnil : gap ++ types ≠ [] := by simp [apart]
    refine ⟨_, _, (List.dropLast_append_getLast hnil).symm, ?_⟩
    have hlast := List.getLast?_eq_some_getLast hnil
    by_cases hempty : types = []
    · simp only [hempty, List.append_nil] at hlast ⊢
      exact blank _ (List.getLast_mem _)
    · rw [List.getLast?_append_of_ne_nil _ hempty] at hlast
      exact typed.spec.2 _ hlast
  have hword : Text.lastWord? ((gap ++ types) ++ ((name ++ size) ++ space)) =
      some (name ++ size) := by
    rw [hfront, List.append_assoc, List.singleton_append]
    refine Text.lastWord?_append hb (by simp [named.nonempty]) ?_ spaced
    rw [List.forall_mem_append]
    exact ⟨fun c hc => (named.visible c hc).1, fun c hc => (sized.visible c hc).1⟩
  have hhead : ((gap ++ (types ++ (name ++ (size ++ (space ++ ';' :: rest))))).head?.map
      Text.isBlank).getD false = true := by
    obtain ⟨c, gap, rfl⟩ := List.exists_cons_of_ne_nil apart
    exact blank c List.mem_cons_self
  rw [if_pos hhead, htake, hword, Option.map_some, sized.takeWhile named]

/-- **A silent line declares nothing.** -/
theorem Silent.declaredName? (h : Silent qualifier line) (hne : qualifier ≠ [])
    (hvisible : ∀ c ∈ qualifier, Text.isBlank c = false) : declaredName? qualifier line = none := by
  cases h with
  | unqualified h =>
      rw [Option.eq_none_iff_forall_ne_some]
      intro name hname
      simp only [Gl.declaredName?, Option.bind_eq_bind, Option.bind_eq_some_iff] at hname
      obtain ⟨rest, hrest, _, hguard, -⟩ := hname
      have hblank : (rest.head?.map Text.isBlank).getD false = true := by
        by_contra hfalse
        simp [hfalse] at hguard
      cases rest with
      | nil => cases hblank
      | cons c rest =>
          refine h (line.takeWhile Text.isBlank) c rest (fun b hb => List.mem_takeWhile_imp hb)
            hblank ?_
          rw [← Text.afterStart?_eq_some.mp hrest]
          exact List.takeWhile_append_dropWhile.symm
  | @unnamed margin gap rest indented blank ends =>
      rw [declaredName?_append hne hvisible indented]
      have htake : (gap ++ rest).takeWhile (· ≠ ';') = gap := by
        rw [List.takeWhile_append_of_pos fun c hc =>
          decide_eq_true (not_semicolon_of_blank (blank c hc))]
        obtain rfl | hsemicolon := ends
        · rw [List.takeWhile_nil, List.append_nil]
        · obtain ⟨rest, rfl⟩ := List.head?_eq_some_iff.mp hsemicolon
          rw [List.takeWhile_cons_of_neg (by simp), List.append_nil]
      rw [htake, Text.lastWord?_eq_none.mpr blank, Option.map_none, ite_self]

/-- **The silent lines are those that declare nothing.**  So every line is one that declares a name
or a silent one, and the reader needs no third case. -/
theorem silent_iff (hne : qualifier ≠ []) (hvisible : ∀ c ∈ qualifier, Text.isBlank c = false) :
    Silent qualifier line ↔ Gl.declaredName? qualifier line = none := by
  refine ⟨fun h => h.declaredName? hne hvisible, fun hnone => ?_⟩
  by_cases hstarts : ∃ margin c rest, (∀ b ∈ margin, Text.isBlank b) ∧ Text.isBlank c ∧
      line = margin ++ (qualifier ++ c :: rest)
  · obtain ⟨margin, c, rest, hmargin, hc, rfl⟩ := hstarts
    have hhead : (((c :: rest).head?.map Text.isBlank).getD false) = true := hc
    rw [declaredName?_append hne hvisible hmargin, if_pos hhead, Option.map_eq_none_iff,
      Text.lastWord?_eq_none] at hnone
    rw [← List.takeWhile_append_dropWhile (p := (decide <| · ≠ ';')) (l := c :: rest)]
    refine .unnamed hmargin hnone ?_
    have hstop := List.head?_dropWhile_not (decide <| · ≠ ';') (c :: rest)
    cases hrest : (c :: rest).dropWhile (decide <| · ≠ ';') with
    | nil => exact .inl rfl
    | cons stop rest' =>
        rw [hrest] at hstop
        have hsemicolon : stop = ';' := by simpa using hstop
        exact .inr (congrArg some hsemicolon)
  · exact .unqualified fun margin c rest hmargin hc heq =>
      hstarts ⟨margin, c, rest, hmargin, hc, heq⟩

end

/-! ## Whole sources -/

/-- The name that a line declares, as it is listed. -/
def declared (qualifier : String) (line : List Char) : Option String :=
  (declaredName? qualifier.toList line).map String.ofList

/-- What a qualifier looks like. -/
theorem spec_of_mem_qualifiers {qualifier : String} (h : qualifier ∈ qualifiers) :
    qualifier.toList ≠ [] ∧ (∀ c ∈ qualifier.toList, Text.isBlank c = false) ∧
      '\r' ∉ qualifier.toList ∧ declaredNames qualifier Shader.preamble.toList = [] := by
  simp only [qualifiers, List.mem_cons, List.not_mem_nil, or_false] at h
  rcases h with rfl | rfl | rfl <;>
    exact ⟨by decide, Text.forall_of_all (by decide), by decide, by decide⟩

/-- Different qualifiers start with different letters. -/
theorem head?_ne_of_mem_qualifiers {qualifier other : String} (h : qualifier ∈ qualifiers)
    (h' : other ∈ qualifiers) (hne : other ≠ qualifier) :
    other.toList.head? ≠ qualifier.toList.head? := by
  have hall : ∀ qualifier ∈ qualifiers, ∀ other ∈ qualifiers, other ≠ qualifier →
      other.toList.head? ≠ qualifier.toList.head? := by decide
  exact hall qualifier h other h' hne

/-- A source may be cut at its line feeds alone. -/
theorem declaredNames_eq {qualifier : String} (hne : qualifier.toList ≠ [])
    (hreturn : '\r' ∉ qualifier.toList) (s : List Char) :
    declaredNames qualifier s = (Text.splitLines s).filterMap (declared qualifier) := by
  induction s using Text.lines_induction with
  | last l hl =>
      rw [Text.splitLines_of_not_mem hl]
      by_cases hnil : l = []
      · obtain ⟨c, rest, hqualifier⟩ := List.exists_cons_of_ne_nil hne
        simp [hnil, declaredNames, declared, declaredName?, hqualifier, Text.trimStart,
          Text.afterStart?]
      · rw [declaredNames, Text.lines_of_not_mem hl hnil]
        rfl
  | line l s hl ih =>
      rw [declaredNames, Text.lines_append_feed hl, Text.splitLines_append_feed hl,
        List.filterMap_cons, List.filterMap_cons, ← ih, declaredName?_dropReturn hne hreturn]
      rfl

/-- **What joined lines declare** is what each of them declares.  The lines have to be lines,
without line feeds in them.  A carriage return may be lost at the end of a line, which matters to no
qualifier that has none. -/
theorem declaredNames_intercalate {qualifier : String} (hne : qualifier.toList ≠ [])
    (hreturn : '\r' ∉ qualifier.toList) {ls : List (List Char)} (hls : ∀ l ∈ ls, '\n' ∉ l) :
    declaredNames qualifier (['\n'].intercalate ls) = ls.filterMap (declared qualifier) := by
  by_cases hnil : ls = []
  · subst hnil
    rfl
  · have hsplit : Text.splitLines (['\n'].intercalate ls) = ls :=
      Text.splitOn_flatten_intersperse hnil hls
    rw [declaredNames_eq hne hreturn, hsplit]

/-- Lines declare what is listed of them. -/
theorem Listing.filterMap_eq {qualifier : String} {ls : List (List Char)} {names : List String}
    (h : Listing qualifier.toList ls names) (hne : qualifier.toList ≠ [])
    (hvisible : ∀ c ∈ qualifier.toList, Text.isBlank c = false) :
    ls.filterMap (declared qualifier) = names := by
  induction h with
  | nil => rfl
  | @named line name _ _ h _ ih =>
      have hdeclared : declared qualifier line = some (String.ofList name) := by
        rw [declared, h.declaredName? hne hvisible, Option.map_some]
      rw [List.filterMap_cons_some hdeclared, ih]
  | @silent line _ _ h _ ih =>
      have hdeclared : declared qualifier line = none := by
        rw [declared, h.declaredName? hne hvisible, Option.map_none]
      rw [List.filterMap_cons_none hdeclared, ih]

/-- A line that starts with another qualifier, or with none, is silent. -/
theorem Foreign.silent_or_mem {qualifier : String} (h : qualifier ∈ qualifiers) {line : List Char}
    (hforeign : Foreign qualifier line) :
    Silent qualifier.toList line ∨ line ∈ Text.lines Shader.preamble.toList := by
  obtain ⟨hne, hvisible, -, -⟩ := spec_of_mem_qualifiers h
  -- what a line starts with behind its blanks is its own
  have hhead {margin : List Char} (word rest : List Char) (hmargin : ∀ b ∈ margin, Text.isBlank b)
      (hword : word ≠ []) (hshown : ∀ c ∈ word, Text.isBlank c = false) :
      (Text.trimStart (margin ++ (word ++ rest))).head? = word.head? := by
    rw [Text.trimStart_append hmargin, List.head?_append_of_ne_nil _ hword]
    rw [List.head?_append_of_ne_nil _ hword]
    exact fun c hc => hshown c (List.mem_of_mem_head? hc)
  cases hforeign with
  | @other margin rest other known different indented =>
      obtain ⟨hne', hvisible', -, -⟩ := spec_of_mem_qualifiers known
      refine .inl (.unqualified fun margin' c rest' hmargin' _ heq => ?_)
      refine head?_ne_of_mem_qualifiers h known different ?_
      rw [← hhead other.toList rest indented hne' hvisible', heq,
        hhead qualifier.toList (c :: rest') hmargin' hne hvisible]
  | blank hblank =>
      refine .inl (.unqualified fun margin c rest _ _ heq => ?_)
      obtain ⟨first, more, hqualifier⟩ := List.exists_cons_of_ne_nil hne
      have hfirst := hvisible first (by simp [hqualifier])
      rw [hblank first (by simp [heq, hqualifier])] at hfirst
      cases hfirst
  | preamble hline => exact .inr hline

/-- Foreign lines declare nothing. -/
theorem Foreign.declared {qualifier : String} (h : qualifier ∈ qualifiers) {line : List Char}
    (hforeign : Foreign qualifier line) : declared qualifier line = none := by
  obtain ⟨hne, hvisible, -, hpreamble⟩ := spec_of_mem_qualifiers h
  obtain hsilent | hline := hforeign.silent_or_mem h
  · rw [Gl.declared, hsilent.declaredName? hne hvisible, Option.map_none]
  · exact List.filterMap_eq_nil_iff.mp hpreamble line hline

/-! ## Everything that is declared -/

/-- What is read from sources under a qualifier.  Lines declare the names that were written into
them, whether the last line is ended or not; foreign lines and the preamble between them change
nothing; and sources one after the other declare what both declare.  Text that ends its last line
can be followed by more without changing what either declares; text that does not would have its
last line run on. -/
structure Recovered (qualifier : String) : Prop where
  listed : ∀ ls names, (∀ l ∈ ls, '\n' ∉ l) → Listing qualifier.toList ls names →
    declaredNames qualifier (['\n'].intercalate ls) = names ∧
      declaredNames qualifier (['\n'].intercalate ls ++ ['\n']) = names
  foreign : ∀ ls ls', (∀ l ∈ ls', '\n' ∉ l) → Text.Interspersed (Foreign qualifier) ls ls' →
    declaredNames qualifier (['\n'].intercalate ls') =
      declaredNames qualifier (['\n'].intercalate ls)
  preamble : ∀ s t, Text.Whole s → declaredNames qualifier (s ++ Shader.preamble.toList ++ t) =
    declaredNames qualifier (s ++ t)
  joined : ∀ s t, declaredNames qualifier (s ++ '\n' :: t) =
    declaredNames qualifier s ++ declaredNames qualifier t
  following : ∀ s t, Text.Whole s → declaredNames qualifier (s ++ t) =
    declaredNames qualifier s ++ declaredNames qualifier t

/-- **The names that are read are those that were written**, in the order of the lines.  Of the
three qualifiers no more is used than that they are words, without carriage returns, under which the
preamble declares nothing. -/
theorem recovered_of_qualifier {qualifier : String} (h : qualifier ∈ qualifiers) :
    Recovered qualifier := by
  obtain ⟨hne, hvisible, hreturn, hpreamble⟩ := spec_of_mem_qualifiers h
  refine ⟨fun ls names hls hlisting => ?_, fun ls ls' hls' hbetween => ?_, fun s t hs => ?_,
    fun s t => ?_, fun s t hs => declaredNames_append qualifier hs t⟩
  · have hnames : declaredNames qualifier (['\n'].intercalate ls) = names := by
      rw [declaredNames_intercalate hne hreturn hls, hlisting.filterMap_eq hne hvisible]
    rw [declaredNames_end hne hreturn]
    exact ⟨hnames, hnames⟩
  · have hls : ∀ l ∈ ls, '\n' ∉ l := fun l hl => hls' l (hbetween.subset hl)
    rw [declaredNames_intercalate hne hreturn hls', declaredNames_intercalate hne hreturn hls]
    exact hbetween.filterMap_eq fun _ hforeign => hforeign.declared h
  · rw [List.append_assoc, declaredNames_append qualifier hs,
      declaredNames_append qualifier Shader.whole_preamble, hpreamble, List.nil_append,
      declaredNames_append qualifier hs]
  · have hwhole : Text.Whole (s ++ ['\n']) := .inr ⟨s, rfl⟩
    rw [← List.singleton_append, ← List.append_assoc, declaredNames_append qualifier hwhole,
      declaredNames_end hne hreturn]

/-- A name that is a qualifier, a rest that looks like a declaration, and lines that come close. -/
theorem recovered_of_qualifier_nested :
    "uniform" ∈ qualifiers ∧
      declaredNames "uniform" (['\n'].intercalate
        ["\tuniform highp float uniform[4] ; uniform x;".toList, "uniforms y;".toList,
          "uniform ;z;".toList, "varying vec2 uniform;".toList, "uniform vec2;\r".toList]) =
        [String.ofList "uniform".toList, String.ofList "vec2".toList] := by
  have h : "uniform" ∈ qualifiers := by decide
  obtain ⟨hne, hvisible, -, -⟩ := spec_of_mem_qualifiers h
  have hgap : ∀ c ∈ " ".toList, Text.isBlank c := Text.forall_of_all (by decide)
  have htypes : Types "highp float ".toList :=
    @Types.cons "highp".toList " ".toList "float ".toList (by decide)
      (Text.forall_of_all (by decide)) (by decide) hgap
      (@Types.cons "float".toList " ".toList [] (by decide) (Text.forall_of_all (by decide))
        (by decide) hgap .nil)
  have hextent : Extent "[4]".toList := @Extent.some ['4'] (Text.forall_of_all (by decide))
  have hnested : Declaring "uniform".toList "uniform".toList
      "\tuniform highp float uniform[4] ; uniform x;".toList :=
    @Declaring.mk _ _ "\t".toList " ".toList _ _ " ".toList " uniform x;".toList
      (Text.forall_of_all (by decide)) (by decide) hgap htypes
      ⟨by decide, Text.forall_of_all (by decide)⟩ hextent hgap
  have hbare : Declaring "uniform".toList "vec2".toList "uniform vec2;\r".toList :=
    @Declaring.mk _ _ [] " ".toList _ _ [] "\r".toList (List.forall_mem_nil _) (by decide) hgap .nil
      ⟨by decide, Text.forall_of_all (by decide)⟩ .none (List.forall_mem_nil _)
  refine ⟨h, ((recovered_of_qualifier h).listed _ _ (by decide) (.named hnested ?_)).1⟩
  have hsilent {line : List Char} (hline : declaredName? "uniform".toList line = none) :
      Silent "uniform".toList line := (silent_iff hne hvisible).mpr hline
  exact .silent (hsilent (by decide)) (.silent (hsilent (by decide)) (.silent (hsilent (by decide))
    (.named hbare .nil)))

end Gl

end ShaderSketch
