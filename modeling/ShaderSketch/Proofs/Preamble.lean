import Mathlib.Data.Bool.AllAny
import Mathlib.Data.List.TakeWhile
import Mathlib.Data.Option.Basic
import ShaderSketch.Gl.Declarations
import ShaderSketch.Proofs.Brackets
import ShaderSketch.Proofs.Lists
import ShaderSketch.Shader.Preamble

/-!
# What the preamble does to a source

The preamble goes between two lines of a source.  It has no brackets, does not speak of `main` and
declares nothing, so that a check of the source with the preamble finds what it would find in the
source by itself, only further down.

## Main definitions

* `Shader.Directed` — a source opens with a version directive
* `Shader.directive`, `Shader.Placed` — what stays in front of the preamble, and how that goes
  behind it
* `Shader.compiledText` — what is compiled for a source
* `Shader.shift` — by how many lines a place of the source moves down

## Main results

* `Shader.splitDirective?_eq_some_iff` : a source is cut behind the directive that it opens with
* `Shader.insertPreamble_eq` : where the preamble goes
* `Shader.infix_compiledText`, `Shader.nested_compiledText`, `Shader.closed_compiledText`,
  `Shader.declaredNames_compiledText` : what the compiler finds in a source is there without the
  preamble
* `Shader.offence_compiledText`, `Shader.length_lines_compiledText` : and where it finds it
-/

namespace ShaderSketch

/-! ## Texts without brackets -/

namespace Gl

/-- A text without brackets. -/
def Plain (s : List Char) : Prop := ∀ c ∈ s, c ∉ ['\x7b', '\x7d', '(', ')']

theorem nested_iff_scan {s : List Char} : Nested s ↔ ∃ d, Depth.scan {} s = .ok d :=
  ⟨fun h => h.scan.imp fun _ => And.left, fun ⟨_, h⟩ => nested_of_scan h⟩

/-- A text without brackets in the middle of another is read without a trace. -/
theorem scan_insert {m : List Char} (hm : Plain m) (s t : List Char) :
    Depth.scan {} (s ++ (m ++ t)) = Depth.scan {} (s ++ t) := by
  cases hs : Depth.scan {} s with
  | error b => rw [Depth.scan_append_of_error hs, Depth.scan_append_of_error hs]
  | ok d =>
      rw [Depth.scan_append_of_ok hs, Depth.scan_append_of_ok hs,
        Depth.scan_append_of_ok (Depth.scan_of_plain hm d)]

theorem nested_insert {m : List Char} (hm : Plain m) {s t : List Char} :
    Nested (s ++ (m ++ t)) ↔ Nested (s ++ t) := by
  rw [nested_iff_scan, nested_iff_scan, scan_insert hm]

theorem closed_insert {m : List Char} (hm : Plain m) {s t : List Char} :
    Closed (s ++ (m ++ t)) ↔ Closed (s ++ t) := by
  have hzero (c : Char) (hc : c ∈ ['\x7b', '\x7d', '(', ')']) : m.count c = 0 :=
    List.count_eq_zero.mpr fun hmem => hm c hmem hc
  unfold Closed
  simp only [List.count_append, hzero _ (show '\x7b' ∈ _ by decide),
    hzero _ (show '\x7d' ∈ _ by decide), hzero _ (show '(' ∈ _ by decide),
    hzero _ (show ')' ∈ _ by decide), Nat.zero_add]

/-- A bracket behind a text without brackets closes nothing if it closes nothing without that. -/
theorem Offence.insert {m : List Char} (hm : Plain m) {s p r : List Char} {b : Char}
    (h : Offence (s ++ (p ++ b :: r)) (s ++ p) b r) :
    Offence (s ++ (m ++ (p ++ b :: r))) (s ++ (m ++ p)) b r where
  split := by simp
  before := (nested_insert hm).mpr h.before
  here := by
    have hhere := h.here
    rw [List.append_assoc] at hhere
    rw [List.append_assoc, List.append_assoc, nested_insert hm]
    exact hhere

/-! ## Declarations -/

theorem afterStart?_concat {start : List Char} {c : Char} (h : c ∉ start) (s : List Char) :
    Text.afterStart? start (s ++ [c]) = (Text.afterStart? start s).map (· ++ [c]) := by
  induction start generalizing s with
  | nil => rfl
  | cons a start ih =>
      rw [List.mem_cons, not_or] at h
      cases s with
      | nil => simp [Text.afterStart?, Ne.symm h.1]
      | cons d s =>
          rw [List.cons_append, Text.afterStart?, Text.afterStart?, ih h.2]
          split <;> rfl

theorem lastWord?_concat_return (s : List Char) :
    Text.lastWord? (s ++ ['\r']) = Text.lastWord? s := by
  have hdrop : (s ++ ['\r']).reverse.dropWhile Text.isBlank = s.reverse.dropWhile Text.isBlank := by
    rw [List.reverse_append, List.reverse_singleton, List.singleton_append]
    rfl
  rw [Text.lastWord?, hdrop, Text.lastWord?]

/-- A carriage return at its end changes nothing about what a line declares. -/
theorem declaredName?_concat_return {qualifier : List Char} (hne : qualifier ≠ [])
    (hreturn : '\r' ∉ qualifier) (l : List Char) :
    declaredName? qualifier (l ++ ['\r']) = declaredName? qualifier l := by
  unfold declaredName? Text.trimStart
  rw [List.dropWhile_append]
  split
  · -- nothing but blanks: the qualifier is missing in both
    rename_i hblank
    rw [List.isEmpty_iff.mp hblank]
    obtain ⟨a, qualifier, rfl⟩ := List.exists_cons_of_ne_nil hne
    rfl
  · rw [afterStart?_concat hreturn]
    cases hrest : Text.afterStart? qualifier (l.dropWhile Text.isBlank) with
    | none => rfl
    | some rest =>
        cases rest with
        | nil => rfl
        | cons c rest =>
            -- the declaration ends at a semicolon or goes on to the carriage return
            have hword : Text.lastWord? ((c :: rest ++ ['\r']).takeWhile (· ≠ ';')) =
                Text.lastWord? ((c :: rest).takeWhile (· ≠ ';')) := by
              rw [List.takeWhile_append]
              split
              · rename_i hall
                rw [List.takeWhile_cons_of_pos (by decide), List.takeWhile_nil,
                  lastWord?_concat_return]
                exact congrArg _ ((List.takeWhile_prefix _).eq_of_length hall).symm
              · rfl
            simp only [Option.map_some, Option.bind_eq_bind, Option.bind_some, hword]
            rfl

theorem declaredName?_dropReturn {qualifier : List Char} (hne : qualifier ≠ [])
    (hreturn : '\r' ∉ qualifier) (l : List Char) :
    declaredName? qualifier (Text.dropReturn l) = declaredName? qualifier l := by
  unfold Text.dropReturn
  split
  · rename_i hlast
    obtain ⟨front, rfl⟩ := List.getLast?_eq_some_iff.mp hlast
    rw [List.dropLast_concat, declaredName?_concat_return hne hreturn]
  · rfl

theorem declaredNames_append (qualifier : String) {s : List Char} (h : Text.Whole s)
    (t : List Char) :
    declaredNames qualifier (s ++ t) = declaredNames qualifier s ++ declaredNames qualifier t := by
  rw [declaredNames, Text.lines_append h, List.filterMap_append]
  rfl

/-- The last line of a source declares the same when it is ended. -/
theorem declaredNames_end {qualifier : String} (hne : qualifier.toList ≠ [])
    (hreturn : '\r' ∉ qualifier.toList) (s : List Char) :
    declaredNames qualifier (s ++ ['\n']) = declaredNames qualifier s := by
  obtain ⟨front, l, hfront, hl, rfl⟩ := Text.exists_whole s
  by_cases hnil : l = []
  · rw [hnil, List.append_nil, declaredNames_append qualifier hfront]
    have hempty : declaredNames qualifier ['\n'] = [] := by
      obtain ⟨a, rest, hqualifier⟩ := List.exists_cons_of_ne_nil hne
      have hlines : Text.lines ['\n'] = [[]] := rfl
      simp [declaredNames, hlines, declaredName?, hqualifier, Text.trimStart, Text.afterStart?]
    rw [hempty, List.append_nil]
  · obtain ⟨hopen, hended⟩ := Text.lines_end hfront hl hnil
    unfold declaredNames
    rw [hopen, hended, List.filterMap_append, List.filterMap_append]
    refine congrArg _ ?_
    simp only [List.filterMap_cons, declaredName?_dropReturn hne hreturn]

end Gl

/-! ## Where the preamble goes -/

namespace Shader

open Gl

/-- What stays in front of the preamble: the version directive with the blanks in front of it. -/
def directive (source : List Char) : List Char := ((splitDirective? source).map Prod.fst).getD []

/-- What is compiled for a source. -/
def compiledText (source : List Char) : List Char :=
  if mentionsPrecision source then source else insertPreamble source

theorem toList_prepare (source : String) :
    (prepare source).toList = compiledText source.toList := by
  unfold prepare compiledText
  split
  · rfl
  · exact String.toList_ofList

/-- A line with a version directive, and the blanks in front of it.  The line has no line feed in
it, so that where it ends can be told from the line feed behind it or the end of the source. -/
structure Versioned (blanks line : List Char) : Prop where
  blank : ∀ c ∈ blanks, Text.isBlank c
  starts : "#version".toList <+: line
  feedless : '\n' ∉ line

/-- A source that opens with a version directive, which ends its line or the source, and what
follows that. -/
inductive Directed : (source front body : List Char) → Prop
  | ended {blanks line : List Char} (versioned : Versioned blanks line) (body : List Char) :
      Directed (blanks ++ line ++ '\n' :: body) (blanks ++ line ++ ['\n']) body
  | unended {blanks line : List Char} (versioned : Versioned blanks line) :
      Directed (blanks ++ line) (blanks ++ line) []

/-- The cut is found behind the first line that is not blank, and only if that line is a directive.
-/
theorem directed_of_splitDirective? {source front body : List Char}
    (h : splitDirective? source = some (front, body)) : Directed source front body := by
  unfold splitDirective? at h
  dsimp only at h
  have hsource : source.takeWhile Text.isBlank ++ source.dropWhile Text.isBlank = source :=
    List.takeWhile_append_dropWhile
  have hblank : ∀ c ∈ source.takeWhile Text.isBlank, Text.isBlank c :=
    fun c hc => List.mem_takeWhile_imp hc
  generalize source.takeWhile Text.isBlank = blanks at h hsource hblank
  generalize source.dropWhile Text.isBlank = rest at h hsource
  split at h
  case isFalse => cases h
  case isTrue hversion =>
    have hrest := List.takeWhile_append_dropWhile (p := (· ≠ '\n')) (l := rest)
    have hfeedless : '\n' ∉ rest.takeWhile (· ≠ '\n') :=
      fun hmem => by simpa using List.mem_takeWhile_imp hmem
    have hfeed := List.head?_dropWhile_not (· ≠ '\n') rest
    have hstarts : "#version".toList <+: rest.takeWhile (· ≠ '\n') := by
      obtain ⟨r, rfl⟩ := List.isPrefixOf_iff_prefix.mp hversion
      rw [List.takeWhile_append_of_pos (List.all_eq_true.mp (by decide))]
      exact List.prefix_append _ _
    generalize rest.takeWhile (· ≠ '\n') = line at h hrest hfeedless hstarts
    generalize rest.dropWhile (· ≠ '\n') = tail at h hrest hfeed
    have versioned : Versioned blanks line := ⟨hblank, hstarts, hfeedless⟩
    rw [← hsource, ← hrest]
    cases tail with
    | nil =>
        obtain ⟨rfl, rfl⟩ := Prod.mk.inj (Option.some.inj h)
        rw [List.append_nil]
        exact .unended versioned
    | cons feed body' =>
        obtain ⟨rfl, rfl⟩ := Prod.mk.inj (Option.some.inj h)
        obtain rfl : feed = '\n' := by simpa using hfeed
        rw [← List.append_assoc]
        exact .ended versioned body'

theorem Versioned.ne_nil {blanks line : List Char} (h : Versioned blanks line) : line ≠ [] := by
  rintro rfl
  exact absurd (List.prefix_nil.mp h.starts) (by decide)

theorem Versioned.getLast?_ne {blanks line : List Char} (h : Versioned blanks line) :
    (blanks ++ line).getLast? ≠ some '\n' := by
  intro hlast
  rw [List.getLast?_append_of_ne_nil _ h.ne_nil] at hlast
  exact h.feedless (List.mem_of_getLast? hlast)

/-- The blanks in front of a directive end where it starts. -/
theorem Versioned.cut {blanks line : List Char} (h : Versioned blanks line) (rest : List Char) :
    (blanks ++ (line ++ rest)).takeWhile Text.isBlank = blanks ∧
      (blanks ++ (line ++ rest)).dropWhile Text.isBlank = line ++ rest := by
  have hversion : "#version".toList = '#' :: "version".toList := by decide
  obtain ⟨r, rfl⟩ := h.starts
  rw [hversion, List.append_assoc, List.cons_append]
  exact ⟨takeWhile_append_cons h.blank rfl, dropWhile_append_cons h.blank rfl⟩

/-- **A source opens with a version directive just when it is cut behind one.**  There is one cut at
most, so that `front` and `body` are determined by the source. -/
theorem splitDirective?_eq_some_iff {source front body : List Char} :
    splitDirective? source = some (front, body) ↔ Directed source front body := by
  refine ⟨directed_of_splitDirective?, fun h => ?_⟩
  have hfeed {line : List Char} (hline : '\n' ∉ line) : ∀ c ∈ line, decide (c ≠ '\n') = true :=
    fun c hc => decide_eq_true fun heq => hline (heq ▸ hc)
  have hend : decide ('\n' ≠ '\n') = false := rfl
  cases h with
  | @ended blanks line versioned body =>
      obtain ⟨htake, hdrop⟩ := versioned.cut ('\n' :: body)
      have hstarts := versioned.starts.trans (List.prefix_append line ('\n' :: body))
      rw [splitDirective?, List.append_assoc, htake, hdrop]
      simp only [List.isPrefixOf_iff_prefix.mpr hstarts, if_true,
        takeWhile_append_cons (hfeed versioned.feedless) hend,
        dropWhile_append_cons (hfeed versioned.feedless) hend]
  | @unended blanks line versioned =>
      obtain ⟨htake, hdrop⟩ := versioned.cut []
      rw [List.append_nil] at htake hdrop
      rw [splitDirective?, htake, hdrop]
      simp only [List.isPrefixOf_iff_prefix.mpr versioned.starts, if_true,
        List.takeWhile_eq_self_iff.mpr (hfeed versioned.feedless),
        List.dropWhile_eq_nil_iff.mpr (hfeed versioned.feedless)]

/-- A directive ends its line, or the source ends with it. -/
theorem Directed.parts {source front body : List Char} (h : Directed source front body) :
    source = front ++ body ∧ front ≠ [] ∧ (front.getLast? = some '\n' ∨ body = []) := by
  cases h with
  | ended _ body => simp
  | unended versioned =>
      exact ⟨(List.append_nil _).symm, List.append_ne_nil_of_right_ne_nil _ versioned.ne_nil,
        .inr rfl⟩

/-- How the preamble goes between the directive of a source and what follows it: by itself, where
the directive ends its line, and else behind a line feed, at the end of the source.  At the end of a
source without a last line feed the preamble would go on in the line of the directive, so that it
brings a line feed of its own. -/
inductive Placed (source body : List Char) : List Char → Prop
  | between (whole : Text.Whole (directive source)) : Placed source body preamble.toList
  | behind (last : body = []) (unended : ¬ Text.Whole source) :
      Placed source body ('\n' :: preamble.toList)

/-- **Where the preamble goes.** -/
theorem insertPreamble_eq (source : List Char) :
    ∃ body inserted, source = directive source ++ body ∧
      insertPreamble source = directive source ++ (inserted ++ body) ∧
      Placed source body inserted := by
  unfold insertPreamble
  cases hsplit : splitDirective? source with
  | none =>
      have hnone : directive source = [] := by rw [directive, hsplit]; rfl
      rw [hnone]
      exact ⟨source, _, rfl, rfl, .between (.inl hnone)⟩
  | some parts =>
      obtain ⟨front, body⟩ := parts
      obtain ⟨hsource, hne, hend⟩ := (directed_of_splitDirective? hsplit).parts
      have hfront : directive source = front := by rw [directive, hsplit]; rfl
      rw [hfront]
      by_cases hlast : front.getLast? = some '\n'
      · refine ⟨body, _, hsource, by simp [hlast], .between (.inr ?_)⟩
        rw [hfront]
        exact List.getLast?_eq_some_iff.mp hlast
      · refine ⟨body, _, hsource, by simp [hlast], .behind (hend.resolve_left hlast) ?_⟩
        rw [hsource, hend.resolve_left hlast, List.append_nil]
        rintro (hnil | hended)
        · exact hne hnil
        · exact hlast (List.getLast?_eq_some_iff.mpr hended)

theorem plain_preamble : Plain preamble.toList := List.all_iff_forall_prop.mp (by decide)

theorem whole_preamble : Text.Whole preamble.toList :=
  .inr ⟨preamble.toList.dropLast, by decide⟩

theorem Placed.plain {source body inserted : List Char} (h : Placed source body inserted) :
    Plain inserted := by
  cases h with
  | between => exact plain_preamble
  | behind => exact List.forall_mem_cons.mpr ⟨by decide, plain_preamble⟩

/-! ## What the compiler finds -/

/-- **Brackets nest in the compiled text as they do in the source.** -/
theorem nested_compiledText {source : List Char} :
    Nested (compiledText source) ↔ Nested source := by
  unfold compiledText
  split
  · rfl
  · obtain ⟨body, inserted, hsource, hinsert, placed⟩ := insertPreamble_eq source
    rw [hinsert, nested_insert placed.plain, ← hsource]

theorem closed_compiledText {source : List Char} :
    Closed (compiledText source) ↔ Closed source := by
  unfold compiledText
  split
  · rfl
  · obtain ⟨body, inserted, hsource, hinsert, placed⟩ := insertPreamble_eq source
    rw [hinsert, closed_insert placed.plain, ← hsource]

/-- **A word of one line that is not in the preamble** stands in the compiled text just when it
stands in the source.  The word must not be in the preamble, and a word that has a line feed in it
could lie across the place where that goes. -/
theorem infix_compiledText {word source : List Char} (hline : '\n' ∉ word)
    (hword : ¬ word <:+: preamble.toList) : word <:+: compiledText source ↔ word <:+: source := by
  unfold compiledText
  split
  · rfl
  · obtain ⟨body, inserted, hsource, hinsert, placed⟩ := insertPreamble_eq source
    rw [hinsert]
    cases placed with
    | between whole =>
        rw [Text.infix_append_of_whole hline whole, Text.infix_append_of_whole hline whole_preamble,
          or_iff_right hword, ← Text.infix_append_of_whole hline whole, ← hsource]
    | behind last =>
        rw [last, List.append_nil] at hsource ⊢
        rw [Text.infix_append_feed hline, or_iff_left hword, ← hsource]

/-- **The compiled text declares what the source declares.**  The preamble goes between whole lines,
so that the lines of the source stay what they were and only its own are added, which declare
nothing. -/
theorem declaredNames_compiledText {qualifier : String} (hne : qualifier.toList ≠ [])
    (hreturn : '\r' ∉ qualifier.toList)
    (hpreamble : declaredNames qualifier preamble.toList = []) (source : List Char) :
    declaredNames qualifier (compiledText source) = declaredNames qualifier source := by
  unfold compiledText
  split
  · rfl
  · obtain ⟨body, inserted, hsource, hinsert, placed⟩ := insertPreamble_eq source
    rw [hinsert]
    cases placed with
    | between whole =>
        rw [declaredNames_append _ whole, declaredNames_append _ whole_preamble, hpreamble,
          List.nil_append, ← declaredNames_append _ whole, ← hsource]
    | behind last =>
        rw [last, List.append_nil] at hsource ⊢
        rw [← hsource, ← List.singleton_append, ← List.append_assoc,
          declaredNames_append _ (.inr ⟨source, rfl⟩), hpreamble, List.append_nil,
          declaredNames_end hne hreturn]

/-! ## Where the compiler finds it -/

/-- By how many lines a place of a source moves down, given what is in front of it: by those of the
preamble when that comes to stand in front of the place. -/
def shift (source front : List Char) : Nat :=
  if mentionsPrecision source = false ∧ directive source <+: front then 4 else 0

/-- A directive that does not end in front of a character of the source has it in itself. -/
theorem exists_of_not_directive {source p r : List Char} {b : Char} (hsplit : source = p ++ b :: r)
    {body : List Char} (hsource : source = directive source ++ body)
    (hfront : ¬ directive source <+: p) : ∃ t, directive source = p ++ b :: t := by
  have hreach : p ++ [b] <+: directive source := by
    have hboth : p ++ [b] <+: source := ⟨r, by rw [hsplit, List.append_assoc]; rfl⟩
    obtain hshort | hlong := List.prefix_or_prefix_of_prefix hboth
      (show directive source <+: source from ⟨body, hsource.symm⟩)
    · exact hshort
    · obtain heq | hproper := List.prefix_concat_iff.mp hlong
      · rw [heq]
      · exact absurd hproper hfront
  obtain ⟨t, ht⟩ := hreach
  exact ⟨t, by rw [← ht, List.append_assoc]; rfl⟩

/-- **A bracket that closes nothing does so in the compiled text as well**, on a line further down
where the preamble is in front of it.  The place is told by a count of lines, since that is all that
is said of it in a message. -/
theorem offence_compiledText {source p r : List Char} {b : Char} (h : Offence source p b r) :
    ∃ p' r', Offence (compiledText source) p' b r' ∧
      p'.count '\n' = p.count '\n' + shift source p := by
  unfold compiledText shift
  cases hmentions : mentionsPrecision source with
  | true => exact ⟨p, r, h, rfl⟩
  | false =>
      obtain ⟨body, inserted, hsource, hinsert, placed⟩ := insertPreamble_eq source
      rw [if_neg Bool.false_ne_true, hinsert]
      by_cases hfront : directive source <+: p
      · -- the bracket stands behind the preamble, which is not at the end of the source then
        obtain ⟨q, hq⟩ := hfront
        have hbody : body = q ++ b :: r := by
          refine (List.append_right_inj (directive source)).mp ?_
          rw [← hsource, ← List.append_assoc, hq]
          exact h.split
        have hoffence :
            Offence (directive source ++ (q ++ b :: r)) (directive source ++ q) b r := by
          rw [hq, ← hbody, ← hsource]
          exact h
        refine ⟨directive source ++ (inserted ++ q), r, ?_, ?_⟩
        · rw [hbody]
          exact hoffence.insert placed.plain
        · cases placed with
          | between whole =>
              have hfour : preamble.toList.count '\n' = 4 := by decide
              rw [if_pos ⟨rfl, ⟨q, hq⟩⟩, ← hq, List.count_append, List.count_append,
                List.count_append, hfour]
              omega
          | behind last =>
              rw [last] at hbody
              simp at hbody
      · -- the bracket stands in the directive, which the preamble follows
        obtain ⟨t, ht⟩ := exists_of_not_directive h.split hsource hfront
        refine ⟨p, t ++ (inserted ++ body), ⟨?_, h.before, h.here⟩, ?_⟩
        · rw [ht, List.append_assoc]
          rfl
        · rw [if_neg fun hboth => hfront hboth.2]
          rfl

/-- **The compiled text has four lines more than the source**, unless the preamble is not needed. -/
theorem length_lines_compiledText (source : List Char) :
    (Text.lines (compiledText source)).length =
      (Text.lines source).length + shift source source := by
  unfold compiledText shift
  cases hmentions : mentionsPrecision source with
  | true => rfl
  | false =>
      obtain ⟨body, inserted, hsource, hinsert, placed⟩ := insertPreamble_eq source
      have hfour : (Text.lines preamble.toList).length = 4 := by decide
      have hfront : directive source <+: source := ⟨body, hsource.symm⟩
      rw [if_neg Bool.false_ne_true, if_pos ⟨rfl, hfront⟩, hinsert]
      cases placed with
      | between whole =>
          conv_rhs => rw [hsource]
          rw [Text.lines_append whole, Text.lines_append whole_preamble, Text.lines_append whole]
          simp only [List.length_append, hfour]
          omega
      | behind last unended =>
          rw [last, List.append_nil] at hsource ⊢
          rw [← hsource, ← List.singleton_append, ← List.append_assoc,
            Text.lines_append (.inr ⟨source, rfl⟩), List.length_append, hfour,
            Text.length_lines_end unended]

end Shader

end ShaderSketch
