import ShaderSketch.Proofs.Preamble

/-!
# What preparing a source does to it

Preparing a source inserts the preamble in one place, and does nothing else to it.

## Main definitions

* `Text.firstSeen?` — the first line of a text that is not blank
* `Text.around?` — a text in front of and behind the first occurrence of a word
* `Shader.Opening` — how a source opens: with a version directive, or with none
* `Shader.recovered` — a source of a length, read off what is compiled for it
* `Shader.Ended` — a version directive that is a whole source, and the same with a line end
* `Shader.Prepared` — what preparing does to a source

## Main results

* `Text.firstSeen?_append_feed` : what follows a text does not change its first line that is not
  blank
* `Shader.around?_preamble` : the first preamble of a prepared source is the one that was inserted
* `Shader.recovered_insertion` : what is compiled for a source tells the source, given its length
* `Shader.prepare_eq_iff` : which sources are compiled alike
* `Shader.prepare_inserts` : preparing a source only inserts the preamble
* `Shader.unrecoverable_without_length` : what is compiled does not tell every source by itself

## Design notes

What is compiled for a source does not tell the source without its length, for two reasons.  It is a
source itself, and compiled as it is.  And a directive that ends its source without a line end gets
one, so that the preamble stands behind it on a line of its own: this is why `separator` cannot be
left out of the account, and why `Prepared.alike` has to name two more sources for a directive that
is all of its source.  There are no others, which is what `around?_preamble` is for: the preamble
that was inserted is the first, since no line in front of it speaks of precision.

Lines are compared with their carriage returns here (`Text.splitLines`), since a directive without
a line end gets one, and a carriage return at its end would be taken for a part of that.
-/

namespace ShaderSketch

/-! ## Lines -/

namespace Text

/-- The first line of a text that is not blank. -/
def firstSeen? (s : List Char) : Option (List Char) :=
  (splitLines s).find? fun l => trimStart l ≠ []

/-- A blank line in front of a text is blank, and what follows another line stays behind it. -/
theorem trimStart_append_feed (l s : List Char) :
    trimStart (l ++ '\n' :: s) =
      if trimStart l = [] then trimStart s else trimStart l ++ '\n' :: s := by
  simp only [trimStart, List.dropWhile_append, List.isEmpty_iff]
  rfl

/-- A text is blank, or it starts after its blanks as its first line that is not blank does. -/
theorem firstSeen?_cases (s : List Char) :
    (firstSeen? s = none ∧ trimStart s = []) ∨
      ∃ l, firstSeen? s = some l ∧ trimStart l <+: trimStart s := by
  unfold firstSeen?
  induction s using lines_induction with
  | last s hs =>
      rw [splitLines_of_not_mem hs]
      by_cases hblank : trimStart s = []
      · exact .inl ⟨by simp [hblank], hblank⟩
      · rw [List.find?_cons_of_pos (by simpa using hblank)]
        exact .inr ⟨s, rfl, List.prefix_refl _⟩
  | line l s hl ih =>
      rw [splitLines_append_feed hl, trimStart_append_feed]
      by_cases hblank : trimStart l = []
      · rw [if_pos hblank, List.find?_cons_of_neg (by simpa using hblank)]
        exact ih
      · rw [if_neg hblank, List.find?_cons_of_pos (by simpa using hblank)]
        exact .inr ⟨l, rfl, List.prefix_append _ _⟩

/-- **What follows a text that is not blank does not change its first line that is not.** -/
theorem firstSeen?_append_feed {s : List Char} (h : trimStart s ≠ []) (t : List Char) :
    firstSeen? (s ++ '\n' :: t) = firstSeen? s := by
  obtain ⟨-, hblank⟩ | ⟨l, hl, -⟩ := firstSeen?_cases s
  · exact absurd hblank h
  · rw [hl, firstSeen?, splitLines_append, List.find?_append]
    exact congrArg (Option.or · _) hl

/-- A line starts a text whose first line is another one only if both are the same. -/
theorem prefix_of_feeds {l l' s t : List Char} (hl : '\n' ∉ l) (hl' : '\n' ∉ l')
    (h : l ++ '\n' :: s <+: l' ++ '\n' :: t) : l = l' ∧ s <+: t := by
  induction l generalizing l' with
  | nil =>
      cases l' with
      | nil => exact ⟨rfl, (List.cons_prefix_cons.mp h).2⟩
      | cons c l' =>
          obtain ⟨rfl, -⟩ := List.cons_prefix_cons.mp h
          exact absurd List.mem_cons_self hl'
  | cons c l ih =>
      cases l' with
      | nil =>
          obtain ⟨rfl, -⟩ := List.cons_prefix_cons.mp h
          exact absurd List.mem_cons_self hl
      | cons c' l' =>
          obtain ⟨rfl, htail⟩ := List.cons_prefix_cons.mp h
          rw [List.mem_cons, not_or] at hl hl'
          obtain ⟨rfl, hstart⟩ := ih hl.2 hl'.2 htail
          exact ⟨rfl, hstart⟩

/-! ## Words -/

/-- A text in front of and behind the first occurrence of a word. -/
def around? (word : List Char) : List Char → Option (List Char × List Char)
  | [] => if word = [] then some ([], []) else none
  | c :: s =>
    if word.isPrefixOf (c :: s) then some ([], (c :: s).drop word.length)
    else (around? word s).map fun (front, body) => (c :: front, body)

theorem around?_of_start {word s : List Char} (h : word <+: s) :
    around? word s = some ([], s.drop word.length) := by
  cases s with
  | nil => rw [around?, if_pos (List.prefix_nil.mp h), List.drop_nil]
  | cons c s =>
      rw [← List.isPrefixOf_iff_prefix] at h
      rw [around?, if_pos h]

theorem around?_cons {word s : List Char} {c : Char} (h : ¬word <+: c :: s) :
    around? word (c :: s) = (around? word s).map fun (front, body) => (c :: front, body) := by
  rw [← List.isPrefixOf_iff_prefix] at h
  rw [around?, if_neg h]

end Text

/-! ## Where the preamble goes -/

namespace Shader

open Text

/-- How a source opens, with what follows: with a version directive, or with none, and then all of
it follows. -/
inductive Opening : (source front body : List Char) → Prop
  | directive {source front body : List Char} (directed : Directed source front body) :
      Opening source front body
  | plain {source : List Char} (h : ¬"#version".toList <+: trimStart source) :
      Opening source [] source

/-- What goes between a front and the preamble: a line feed, unless there is nothing in front or it
ends in one. -/
def separator (front : List Char) : List Char :=
  if front ≠ [] ∧ front.getLast? ≠ some '\n' then ['\n'] else []

theorem splitDirective?_eq_none {source : List Char} (h : splitDirective? source = none) :
    ¬"#version".toList <+: trimStart source := by
  intro hversion
  unfold splitDirective? at h
  rw [trimStart, ← List.isPrefixOf_iff_prefix] at hversion
  dsimp only at h
  rw [if_pos hversion] at h
  split at h <;> cases h

theorem separator_cases (front : List Char) : separator front = [] ∨ separator front = ['\n'] := by
  unfold separator
  split
  · exact .inr rfl
  · exact .inl rfl

/-- **The preamble goes behind the opening of a source.** -/
theorem insertPreamble_opening (source : List Char) :
    ∃ front body, Opening source front body ∧
      insertPreamble source = front ++ separator front ++ preamble.toList ++ body := by
  unfold insertPreamble
  cases hsplit : splitDirective? source with
  | none => exact ⟨[], source, .plain (splitDirective?_eq_none hsplit), rfl⟩
  | some parts =>
      obtain ⟨front, body⟩ := parts
      have directed := directed_of_splitDirective? hsplit
      refine ⟨front, body, .directive directed, ?_⟩
      simp only [separator, directed.parts.2.1, ne_eq, not_false_eq_true, true_and, ite_not]

variable {source front body : List Char}

/-- The front and the body are all of a source, and the body is empty where the front ends the
source. -/
theorem Opening.parts (h : Opening source front body) :
    source = front ++ body ∧ Whole (front ++ separator front) ∧
      (separator front ≠ [] → body = []) := by
  cases h with
  | plain => exact ⟨rfl, .inl rfl, fun h => absurd rfl h⟩
  | directive directed =>
      obtain ⟨hsource, hne, hend⟩ := directed.parts
      refine ⟨hsource, ?_⟩
      by_cases hlast : front.getLast? = some '\n'
      · rw [separator, if_neg fun h => h.2 hlast, List.append_nil]
        exact ⟨.inr (List.getLast?_eq_some_iff.mp hlast), fun h => absurd rfl h⟩
      · rw [separator, if_pos ⟨hne, hlast⟩]
        exact ⟨.inr ⟨front, rfl⟩, fun _ => hend.resolve_left hlast⟩

/-- A line end at the end of a text has nothing to do with whether it speaks of precision. -/
theorem spoken_append_feed {s : List Char} :
    "precision".toList <:+: s ++ ['\n'] ↔ "precision".toList <:+: s := by
  rw [infix_append_feed (by decide), List.infix_nil]
  exact or_iff_left (by decide)

/-! ## Recovering the source -/

/-- The source of a length that something is compiled for: that itself, when it is as long, and else
what is left without its first preamble and without the line feed that was inserted in front. -/
def recovered (length : Nat) (compiled : List Char) : List Char :=
  if compiled.length = length then compiled
  else
    match around? preamble.toList compiled with
    | some (front, body) => front.take (length - body.length) ++ body
    | none => compiled

/-- The preamble speaks of precision on its second line. -/
theorem preamble_eq : preamble.toList = "#ifdef GL_ES".toList ++
    '\n' :: ("precision mediump float;".toList ++ '\n' :: "#endif\n\n".toList) := by
  decide

/-- Whole lines that do not speak of precision do not start a preamble. -/
theorem not_starts_preamble (whole : Whole front) (hne : front ≠ [])
    (hsilent : ¬"precision".toList <:+: front) (rest : List Char) :
    ¬preamble.toList <+: front ++ (preamble.toList ++ rest) := by
  intro h
  have hfeed : '\n' ∈ front := by
    obtain rfl | ⟨t, rfl⟩ := whole
    · exact absurd rfl hne
    · simp
  obtain ⟨l, t, hl, rfl⟩ := exists_line hfeed
  have hsecond : "precision mediump float;".toList ++ '\n' :: "#endif\n\n".toList <+:
      t ++ (preamble.toList ++ rest) := by
    rw [List.append_assoc] at h
    nth_rewrite 1 [preamble_eq] at h
    exact (prefix_of_feeds (by decide) hl h).2
  obtain rfl | ⟨t', ht'⟩ := (Whole.of_append whole).tail
  · -- the preamble that was inserted starts with another line
    rw [List.nil_append, preamble_eq, List.append_assoc] at hsecond
    exact absurd (prefix_of_feeds (by decide) (by decide) hsecond).1 (by decide)
  · -- the second line of the front would speak of precision
    obtain ⟨l', t'', hl', rfl⟩ := exists_line (show '\n' ∈ t by simp [ht'])
    rw [List.append_assoc] at hsecond
    obtain ⟨rfl, -⟩ := prefix_of_feeds (by decide) hl' hsecond
    refine hsilent (List.IsInfix.trans ?_ ((List.suffix_cons _ _).isInfix.trans
      (List.suffix_append l _).isInfix))
    refine List.IsInfix.trans ?_ (List.prefix_append _ _).isInfix
    exact ⟨[], " mediump float;".toList, by decide⟩

/-- **The first preamble of a prepared source is the one that was inserted.** -/
theorem around?_preamble (whole : Whole front) (hsilent : ¬"precision".toList <:+: front)
    (body : List Char) :
    around? preamble.toList (front ++ (preamble.toList ++ body)) = some (front, body) := by
  induction front with
  | nil =>
      rw [List.nil_append, around?_of_start (List.prefix_append _ _), List.drop_left]
  | cons c front ih =>
      have hrest : ¬"precision".toList <:+: front :=
        fun h => hsilent (h.trans (List.suffix_cons c front).isInfix)
      have hlater : ¬preamble.toList <+: c :: (front ++ (preamble.toList ++ body)) :=
        not_starts_preamble whole (List.cons_ne_nil c front) hsilent body
      rw [List.cons_append, around?_cons hlater, ih whole.tail hrest]
      rfl

/-- What is compiled for a source that does not speak of precision shows where the preamble is. -/
theorem around?_insertion (opening : Opening source front body)
    (hsilent : ¬"precision".toList <:+: source) :
    around? preamble.toList (front ++ separator front ++ preamble.toList ++ body) =
      some (front ++ separator front, body) := by
  obtain ⟨hsource, whole, -⟩ := opening.parts
  have hfront : ¬"precision".toList <:+: front ++ separator front := by
    intro h
    have hwithin : "precision".toList <:+: front := by
      obtain hnone | hfeed := separator_cases front
      · rwa [hnone, List.append_nil] at h
      · rwa [hfeed, spoken_append_feed] at h
    exact hsilent (hwithin.trans (hsource ▸ (List.prefix_append front body).isInfix))
  rw [List.append_assoc _ preamble.toList, around?_preamble whole hfront]

/-- A source that does not speak of precision is recovered from what is compiled for it. -/
theorem recovered_insertion (opening : Opening source front body)
    (hsilent : ¬"precision".toList <:+: source) :
    recovered source.length (front ++ separator front ++ preamble.toList ++ body) = source := by
  obtain ⟨hsource, -, -⟩ := opening.parts
  have hlonger : (front ++ separator front ++ preamble.toList ++ body).length ≠ source.length := by
    have hsome : 0 < preamble.toList.length := by decide
    rw [hsource]
    simp only [List.length_append]
    omega
  have hlength : source.length - body.length = front.length := by
    rw [hsource, List.length_append, Nat.add_sub_cancel]
  rw [recovered, if_neg hlonger, around?_insertion opening hsilent]
  dsimp only
  rw [hlength, List.take_left, ← hsource]

/-- A source that is nothing but a version directive without a line end, with the blanks in front of
it, and the same directive with one. -/
inductive Ended : (bare ended : List Char) → Prop
  | mk {blanks line : List Char} (versioned : Versioned blanks line) :
      Ended (blanks ++ line) (blanks ++ line ++ ['\n'])

theorem Ended.spoken_iff {bare ended : List Char} (h : Ended bare ended) :
    "precision".toList <:+: ended ↔ "precision".toList <:+: bare := by
  cases h
  exact spoken_append_feed

/-- A directive that is a whole source is compiled with a line end, whether it has one or not. -/
theorem Ended.insertPreamble {bare ended : List Char} (h : Ended bare ended) :
    insertPreamble ended = insertPreamble bare := by
  obtain ⟨versioned⟩ := h
  unfold Shader.insertPreamble
  rw [splitDirective?_eq_some_iff.mpr (.ended versioned []),
    splitDirective?_eq_some_iff.mpr (.unended versioned)]
  simp only [if_pos List.getLast?_concat, if_neg versioned.getLast?_ne, List.append_nil]

/-- Only a directive that is a whole source, and has no line end, gets a line feed. -/
theorem Opening.ended (h : Opening source front body) (hseparator : separator front ≠ []) :
    Ended source (source ++ ['\n']) := by
  cases h with
  | plain => exact absurd rfl hseparator
  | directive directed =>
      cases directed with
      | ended versioned body => exact absurd (if_neg fun h => h.2 List.getLast?_concat) hseparator
      | unended versioned => exact ⟨versioned⟩

/-- Two sources that do not speak of precision and are compiled alike differ at most in the line end
of a directive that is all there is. -/
theorem alike_of_insertion {source' front' body' : List Char}
    (opening : Opening source front body) (opening' : Opening source' front' body')
    (hsilent : ¬"precision".toList <:+: source) (hsilent' : ¬"precision".toList <:+: source')
    (h : front ++ separator front ++ preamble.toList ++ body =
      front' ++ separator front' ++ preamble.toList ++ body') :
    source' = source ∨ Ended source source' ∨ Ended source' source := by
  have haround := around?_insertion opening hsilent
  rw [h, around?_insertion opening' hsilent'] at haround
  obtain ⟨hfront, rfl⟩ := Prod.mk.inj (Option.some.inj haround)
  obtain ⟨hsource, -, hlast⟩ := opening.parts
  obtain ⟨hsource', -, hlast'⟩ := opening'.parts
  obtain hnone | hfeed := separator_cases front <;> obtain hnone' | hfeed' := separator_cases front'
  · rw [hnone, hnone', List.append_nil, List.append_nil] at hfront
    exact .inl (by rw [hsource, hsource', hfront])
  · -- one directive ends its line, and the other is the whole of its source
    have hne' : separator front' ≠ [] := by simp [hfeed']
    rw [hnone, hfeed', List.append_nil] at hfront
    rw [hlast' hne', List.append_nil] at hsource hsource'
    have hended : source' ++ ['\n'] = source := by rw [hsource, hsource', hfront]
    exact .inr (.inr (hended ▸ opening'.ended hne'))
  · have hne : separator front ≠ [] := by simp [hfeed]
    rw [hfeed, hnone', List.append_nil] at hfront
    rw [hlast hne, List.append_nil] at hsource hsource'
    have hended : source ++ ['\n'] = source' := by rw [hsource, hsource', hfront]
    exact .inr (.inl (hended ▸ opening.ended hne))
  · rw [hfeed, hfeed'] at hfront
    exact .inl (by rw [hsource, hsource', List.append_cancel_right hfront])

/-! ## Lines of a prepared source -/

/-- The preamble in front of a text leaves the lines of that as they are. -/
theorem sublist_preamble (body : List Char) :
    (splitLines body).Sublist (splitLines (preamble.toList ++ body)) := by
  have hlast : preamble.toList =
      "#ifdef GL_ES\nprecision mediump float;\n#endif\n".toList ++ ['\n'] := by decide
  rw [hlast, List.append_assoc, List.singleton_append, splitLines_append]
  exact List.sublist_append_right _ _

/-- Behind a directive, the preamble stands on lines of its own. -/
theorem Directed.insertion (h : Directed source front body) :
    ∃ start, trimStart start ≠ [] ∧
      front ++ separator front ++ preamble.toList ++ body =
        start ++ '\n' :: (preamble.toList ++ body) ∧
      (source = start ++ '\n' :: body ∨ source = start) := by
  have hseen {blanks line : List Char} (versioned : Versioned blanks line) :
      trimStart (blanks ++ line) ≠ [] := by
    obtain ⟨r, rfl⟩ := versioned.starts
    rw [trimStart, List.dropWhile_append_of_pos versioned.blank]
    exact List.cons_ne_nil _ _
  cases h with
  | @ended blanks line versioned body =>
      have hseparator : separator (blanks ++ line ++ ['\n']) = [] := by simp [separator]
      refine ⟨blanks ++ line, hseen versioned, ?_, .inl rfl⟩
      rw [hseparator]
      simp
  | @unended blanks line versioned =>
      have hseparator : separator (blanks ++ line) = ['\n'] :=
        if_pos ⟨List.append_ne_nil_of_right_ne_nil _ versioned.ne_nil, versioned.getLast?_ne⟩
      exact ⟨blanks ++ line, hseen versioned, by simp [hseparator], .inr rfl⟩

theorem sublist_insertion (opening : Opening source front body) :
    (splitLines source).Sublist
      (splitLines (front ++ separator front ++ preamble.toList ++ body)) := by
  cases opening with
  | plain => exact sublist_preamble source
  | directive directed =>
      obtain ⟨start, -, hinsertion, rfl | rfl⟩ := directed.insertion
      · rw [hinsertion, splitLines_append, splitLines_append]
        exact (List.Sublist.refl _).append (sublist_preamble body)
      · rw [hinsertion, splitLines_append]
        exact List.sublist_append_left _ _

/-- A version directive on the first line that is not blank stays there. -/
theorem firstSeen?_insertion (opening : Opening source front body) {l : List Char}
    (hl : firstSeen? source = some l) (hversion : "#version".toList <+: trimStart l) :
    firstSeen? (front ++ separator front ++ preamble.toList ++ body) = some l := by
  cases opening with
  | plain habsent =>
      obtain ⟨hnone, -⟩ | ⟨l', hl', hstart⟩ := firstSeen?_cases source
      · rw [hnone] at hl
        cases hl
      · obtain rfl := Option.some.inj (hl.symm.trans hl')
        exact absurd (hversion.trans hstart) habsent
  | directive directed =>
      obtain ⟨start, hseen, hinsertion, rfl | rfl⟩ := directed.insertion
      · rw [hinsertion, firstSeen?_append_feed hseen, ← hl, firstSeen?_append_feed hseen]
      · rw [hinsertion, firstSeen?_append_feed hseen, hl]

/-! ## Prepared sources -/

/-- What preparing does to a source: nothing, when that speaks of precision; and else the preamble
goes behind its opening, and nothing else changes.  The source can be recovered, with its length as
the only thing to know besides.  Without the length, the sources that are compiled alike are the
source, what is compiled for it, which is compiled as it is, and the same directive with its line
end or without it, where the source is nothing else.  What the length tells is whether a preamble
was put in at all, and whether the line end in front of it had been there. -/
structure Prepared (source result : String) : Prop where
  kept : "precision".toList <:+: source.toList →
    mentionsPrecision source.toList ∧ result = source
  inserted : ¬"precision".toList <:+: source.toList → ∃ front body,
    Opening source.toList front body ∧ source.toList = front ++ body ∧
      result.toList = front ++ separator front ++ preamble.toList ++ body ∧
      (separator front ≠ [] → body = [])
  recovery : recovered source.toList.length result.toList = source.toList
  alike : ¬"precision".toList <:+: source.toList → ∀ other, prepare other = result ↔
    other = source ∨ other = result ∨
      Ended source.toList other.toList ∨ Ended other.toList source.toList
  first : ∀ l, firstSeen? source.toList = some l → "#version".toList <+: trimStart l →
    firstSeen? result.toList = some l
  lines : (splitLines source.toList).Sublist (splitLines result.toList)
  again : prepare result = result

theorem prepare_of_spoken {source : String} (h : "precision".toList <:+: source.toList) :
    prepare source = source :=
  if_pos (contains_iff.mpr h)

theorem toList_prepare_of_silent {source : String}
    (h : ¬"precision".toList <:+: source.toList) :
    ∃ front body, Opening source.toList front body ∧
      (prepare source).toList = front ++ separator front ++ preamble.toList ++ body := by
  obtain ⟨front, body, opening, hinsert⟩ := insertPreamble_opening source.toList
  refine ⟨front, body, opening, ?_⟩
  have hmentions : ¬mentionsPrecision source.toList :=
    fun hcontains => h (contains_iff.mp hcontains)
  rw [toList_prepare, compiledText, if_neg hmentions, hinsert]

/-- A source is compiled as it is, or with the preamble behind its opening. -/
theorem prepare_cases (source : String) : prepare source = source ∨
    ¬"precision".toList <:+: source.toList ∧ ∃ front body, Opening source.toList front body ∧
      (prepare source).toList = front ++ separator front ++ preamble.toList ++ body := by
  by_cases h : "precision".toList <:+: source.toList
  · exact .inl (prepare_of_spoken h)
  · exact .inr ⟨h, toList_prepare_of_silent h⟩

/-- The preamble speaks of precision, so that no second one is inserted. -/
theorem prepare_prepare (source : String) : prepare (prepare source) = prepare source := by
  obtain hkept | ⟨-, front, body, -, hresult⟩ := prepare_cases source
  · rw [hkept, hkept]
  · refine prepare_of_spoken ?_
    rw [hresult, List.append_assoc _ preamble.toList]
    refine List.IsInfix.trans ?_ ((List.prefix_append _ body).isInfix.trans
      (List.suffix_append _ _).isInfix)
    exact contains_iff.mp (by decide)

theorem prepare_of_ended {bare ended : String} (h : Ended bare.toList ended.toList)
    (hsilent : ¬"precision".toList <:+: bare.toList) : prepare ended = prepare bare := by
  have hbare : ¬mentionsPrecision bare.toList := fun hcontains =>
    hsilent (contains_iff.mp hcontains)
  have hended : ¬mentionsPrecision ended.toList := fun hcontains =>
    hsilent (h.spoken_iff.mp (contains_iff.mp hcontains))
  rw [prepare, prepare, if_neg hbare, if_neg hended, h.insertPreamble]

/-- **Which sources are compiled alike.**  Silence is asked of `source` alone: two sources that both
speak of precision are compiled as they are, and alike only if they are the same.  A source that was
compiled is compiled as it is (`prepare_prepare`), which is the second of the cases. -/
theorem prepare_eq_iff {source : String} (hsilent : ¬"precision".toList <:+: source.toList)
    (other : String) : prepare other = prepare source ↔
      other = source ∨ other = prepare source ∨
        Ended source.toList other.toList ∨ Ended other.toList source.toList := by
  constructor
  · intro h
    by_cases hspoken : "precision".toList <:+: other.toList
    · exact .inr (.inl ((prepare_of_spoken hspoken).symm.trans h))
    obtain ⟨front, body, opening, hresult⟩ := toList_prepare_of_silent hsilent
    obtain ⟨front', body', opening', hresult'⟩ := toList_prepare_of_silent hspoken
    have hboth := hresult.symm.trans ((congrArg String.toList h).symm.trans hresult')
    obtain hsame | hended := alike_of_insertion opening opening' hsilent hspoken hboth
    · exact .inl (String.ext hsame)
    · exact .inr (.inr hended)
  · rintro (rfl | rfl | hended | hended)
    · rfl
    · exact prepare_prepare source
    · exact prepare_of_ended hended hsilent
    · exact (prepare_of_ended hended (mt hended.spoken_iff.mpr hsilent)).symm

/-- **Preparing a source only inserts the preamble**, in the right place and once. -/
theorem prepare_inserts (source : String) : Prepared source (prepare source) where
  kept h := ⟨contains_iff.mpr h, prepare_of_spoken h⟩
  inserted h := by
    obtain ⟨front, body, opening, hresult⟩ := toList_prepare_of_silent h
    obtain ⟨hsource, -, hlast⟩ := opening.parts
    exact ⟨front, body, opening, hsource, hresult, hlast⟩
  recovery := by
    obtain hkept | ⟨hsilent, front, body, opening, hresult⟩ := prepare_cases source
    · rw [hkept]
      exact if_pos rfl
    · rw [hresult]
      exact recovered_insertion opening hsilent
  alike := prepare_eq_iff
  first l hl hversion := by
    obtain hkept | ⟨-, front, body, opening, hresult⟩ := prepare_cases source
    · rw [hkept]
      exact hl
    · rw [hresult]
      exact firstSeen?_insertion opening hl hversion
  lines := by
    obtain hkept | ⟨-, front, body, opening, hresult⟩ := prepare_cases source
    · rw [hkept]
    · rw [hresult]
      exact sublist_insertion opening
  again := prepare_prepare source

/-- **What is compiled does not tell every source by itself.**  Both of these sources are silent on
precision, and a directive is compiled with a line end whether it had one or not. -/
theorem unrecoverable_without_length :
    prepare "#version 100" = prepare "#version 100\n" ∧ "#version 100" ≠ "#version 100\n" ∧
      ¬∃ recover : String → String, ∀ source, recover (prepare source) = source := by
  have halike : prepare "#version 100" = prepare "#version 100\n" := by decide +kernel
  have hdiffer : "#version 100" ≠ "#version 100\n" := by decide
  refine ⟨halike, hdiffer, ?_⟩
  rintro ⟨recover, hrecover⟩
  refine hdiffer ?_
  calc "#version 100" = recover (prepare "#version 100") := (hrecover _).symm
    _ = recover (prepare "#version 100\n") := by rw [halike]
    _ = "#version 100\n" := hrecover _

end Shader

end ShaderSketch
