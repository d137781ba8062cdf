import Mathlib.Data.List.Nodup
import Mathlib.Data.List.Perm.Basic
import ShaderSketch.CommandLine.Parse
import ShaderSketch.Proofs.Encoding
import ShaderSketch.Proofs.ExportPaths
import ShaderSketch.Proofs.Sizes

/-!
# Writing a command line

Arguments are written with one word for each option, which has its value behind an equals sign, and
with the prompt at the end, behind the mark that ends the options.  Such words are read as the
arguments again, in whatever order the options come and whatever their values look like.

## Main definitions

* `Arguments.spelled` — the bytes that spell the value of a parameter
* `Arguments.Sound` — arguments whose values can have been read at all
* `Arguments.WrittenAs` — the words that arguments are written as

## Main results

* `Size.read_spelled` : a size is read as it was spelled
* `CommandLine.assign_only` : one value more is taken in
* `CommandLine.parse_written` : a command line is read as it was written, and a source beside a
  prompt is refused

## Design notes

The words that were taken in so far determine the draft: it holds the arguments restricted to the
parameters of these words.  That is the invariant of the induction over the words.
-/

namespace ShaderSketch

/-! ## Sizes -/

namespace Size

/-- A size as it is spelled, in decimal digits. -/
def spelled (size : Size) : List Char :=
  Nat.toDigits 10 size.width.toNat ++ 'x' :: Nat.toDigits 10 size.height.toNat

/-- **A size is read as it was spelled.** -/
theorem read_spelled {size : Size} (hw : size.width ≠ 0) (hh : size.height ≠ 0) :
    read (String.ofList size.spelled) = .ok size := by
  rw [read_eq_ok, String.toList_ofList]
  exact spelled_toDigits hw hh

end Size

/-! ## Values -/

namespace Arguments

/-- The bytes that spell the value of a parameter, where there is one: numbers in decimal, the size
as width, `x` and height, and the others as they are. -/
def spelled (a : Arguments) : Parameter → Option (List UInt8)
  | .prompt => a.prompt.map fun s => Utf8.encode s.toList
  | .source => a.source.map Path.bytes
  | .endpoint => a.endpoint.map fun s => Utf8.encode s.toList
  | .timeout => a.timeout.map fun n => Utf8.encode (Nat.toDigits 10 n)
  | .size => a.size.map fun size => Utf8.encode size.spelled
  | .exportTo => a.exportTo.map Path.bytes
  | .config => a.config.map Path.bytes

/-- Arguments whose values can have been read at all: paths are not empty, the timeout is a number
of 64 bits, a window has both sides, and the path of a picture is one.  Every other value is refused
when it is read, so that arguments which came of a command line are sound anyhow. -/
structure Sound (a : Arguments) : Prop where
  source : ∀ path ∈ a.source, path.bytes ≠ []
  config : ∀ path ∈ a.config, path.bytes ≠ []
  timeout : ∀ seconds ∈ a.timeout, seconds ≤ Natural.limit64
  size : ∀ size ∈ a.size, size.width ≠ 0 ∧ size.height ≠ 0
  exportTo : ∀ path ∈ a.exportTo, ∃ text, ExportPath.read text = .ok path

/-- The arguments that are left of some when only certain parameters count. -/
def only (a : Arguments) (ps : List Parameter) : Arguments where
  prompt := if .prompt ∈ ps then a.prompt else none
  source := if .source ∈ ps then a.source else none
  endpoint := if .endpoint ∈ ps then a.endpoint else none
  timeout := if .timeout ∈ ps then a.timeout else none
  size := if .size ∈ ps then a.size else none
  exportTo := if .exportTo ∈ ps then a.exportTo else none
  config := if .config ∈ ps then a.config else none

/-- Restricting arguments to the parameters that they have takes nothing away. -/
theorem only_eq_self {a : Arguments} {ps : List Parameter}
    (h : ∀ p, (a.spelled p).isSome → p ∈ ps) : a.only ps = a := by
  have hkept {α : Type} {p : Parameter} {value : Option α} (hp : value.isSome → p ∈ ps) :
      (if p ∈ ps then value else none) = value := by
    split
    · rfl
    · next hout => exact (Option.not_isSome_iff_eq_none.mp (hp.mt hout)).symm
  have hp := h .prompt
  have hs := h .source
  have he := h .endpoint
  have ht := h .timeout
  have hz := h .size
  have hx := h .exportTo
  have hc := h .config
  simp only [spelled, Option.isSome_map] at hp hs he ht hz hx hc
  simp only [only, hkept hp, hkept hs, hkept he, hkept ht, hkept hz, hkept hx, hkept hc]

end Arguments

namespace CommandLine

theorem textValue_encode (s : List Char) : textValue (Utf8.encode s) = .ok (String.ofList s) := by
  rw [textValue, Utf8.decode?_encode]

theorem pathValue_bytes (p : Parameter) {path : Path} (h : path.bytes ≠ []) :
    pathValue p path.bytes = .ok path := if_neg h

/-- **One value more is taken in** as it was spelled.  Any parameters may have been taken in before.
Since the sides of the equation are both `only`, this is one step of the induction over the words.
-/
theorem assign_only {a : Arguments} (ha : a.Sound) {p : Parameter} {bytes : List UInt8}
    (h : a.spelled p = some bytes) (ps : List Parameter) :
    assign (a.only ps) p bytes = .ok (a.only (ps ++ [p])) := by
  cases p with
  | prompt =>
      obtain ⟨s, hs, rfl⟩ := Option.map_eq_some_iff.mp h
      simp [assign, bind, Except.bind, pure, Except.pure, textValue_encode, Arguments.only, hs]
  | source =>
      obtain ⟨path, hpath, rfl⟩ := Option.map_eq_some_iff.mp h
      simp [assign, bind, Except.bind, pure, Except.pure,
        pathValue_bytes _ (ha.source path hpath), Arguments.only, hpath]
  | endpoint =>
      obtain ⟨s, hs, rfl⟩ := Option.map_eq_some_iff.mp h
      simp [assign, bind, Except.bind, pure, Except.pure, textValue_encode, Arguments.only, hs]
  | timeout =>
      obtain ⟨n, hn, rfl⟩ := Option.map_eq_some_iff.mp h
      simp [assign, bind, Except.bind, pure, Except.pure, textValue_encode,
        Natural.read_toDigits (ha.timeout n hn), Arguments.only, hn]
  | size =>
      obtain ⟨size, hsize, rfl⟩ := Option.map_eq_some_iff.mp h
      obtain ⟨hw, hh⟩ := ha.size size hsize
      simp [assign, bind, Except.bind, pure, Except.pure, textValue_encode,
        Size.read_spelled hw hh, Arguments.only, hsize]
  | exportTo =>
      obtain ⟨path, hpath, rfl⟩ := Option.map_eq_some_iff.mp h
      obtain ⟨text, htext⟩ := ha.exportTo path hpath
      obtain rfl := (ExportPath.read_eq_ok.mp htext).1
      simp [assign, bind, Except.bind, pure, Except.pure, Path.ofText, textValue_encode,
        htext, Arguments.only, hpath]
  | config =>
      obtain ⟨path, hpath, rfl⟩ := Option.map_eq_some_iff.mp h
      simp [assign, bind, Except.bind, pure, Except.pure,
        pathValue_bytes _ (ha.config path hpath), Arguments.only, hpath]

end CommandLine

/-! ## Words -/

namespace CommandLine

/-- An option with its value in one word. -/
def attached (option : Parameter × List UInt8) : List UInt8 :=
  0x2d :: 0x2d :: (Utf8.encode option.1.name.toList ++ 0x3d :: option.2)

/-- The word that ends the options. -/
def mark : List UInt8 := [0x2d, 0x2d]

/-- The word is cut at its first equals sign, whatever stands in the value. -/
theorem word_of_attached (p : Parameter) (value : List UInt8) :
    Word.of (attached (p, value)) = .long (Utf8.encode p.name.toList) (some value) := by
  have hname : ∀ b ∈ Utf8.encode p.name.toList, decide (b ≠ 0x3d) = true :=
    List.all_eq_true.mp (by cases p <;> rfl)
  have htake : (Utf8.encode p.name.toList ++ 0x3d :: value).takeWhile (· ≠ 0x3d) =
      Utf8.encode p.name.toList := by
    rw [List.takeWhile_append_of_pos hname, List.takeWhile_cons_of_neg (by simp), List.append_nil]
  have hdrop : (Utf8.encode p.name.toList ++ 0x3d :: value).dropWhile (· ≠ 0x3d) =
      0x3d :: value := by
    rw [List.dropWhile_append_of_pos hname, List.dropWhile_cons_of_neg (by simp)]
  rw [attached, Word.of]
  · simp only [htake, hdrop]
  · simp

/-! ## Drafts -/

/-- What was taken in when words with the given options came, and nothing else. -/
def drafted (a : Arguments) (ps : List Parameter) : Draft := { arguments := a.only ps, given := ps }

theorem take_drafted {a : Arguments} (ha : a.Sound) {p : Parameter} {bytes : List UInt8}
    (h : a.spelled p = some bytes) {ps : List Parameter} (hp : p ∉ ps) (escaped : Bool) :
    Draft.take { drafted a ps with escaped := escaped } p bytes =
      .ok { drafted a (ps ++ [p]) with escaped := escaped } := by
  have hnew : (drafted a ps).given.contains p = false := by simpa [drafted] using hp
  have hassign : assign (drafted a ps).arguments p bytes = .ok (a.only (ps ++ [p])) :=
    assign_only ha h ps
  simp only [Draft.take, hnew, hassign, Bool.false_eq_true, if_false]
  rfl

theorem word_attached {a : Arguments} (ha : a.Sound) {p : Parameter} {bytes : List UInt8}
    (hnamed : p ∈ Parameter.named) (h : a.spelled p = some bytes) {ps : List Parameter}
    (hp : p ∉ ps) :
    (drafted a ps).word (attached (p, bytes)) = .ok (drafted a (ps ++ [p])) := by
  have hname : Parameter.ofName? (String.ofList p.name.toList) = some p := by
    revert hnamed
    cases p <;> decide
  have htake := take_drafted ha h hp false
  simp only [Draft.word, drafted, word_of_attached, Draft.long, Utf8.decode?_encode, hname,
    Draft.settle, bind, Except.bind, Bool.false_eq_true, if_false]
  exact htake

/-- **The words of options are taken in** one by one, whatever their order.  No option may come
twice, as the second would be refused; this is what the condition on the names is for, and it counts
the ones that were taken in before. -/
theorem words_attached {a : Arguments} (ha : a.Sound) {options : List (Parameter × List UInt8)}
    (h : ∀ o ∈ options, o.1 ∈ Parameter.named ∧ a.spelled o.1 = some o.2) :
    ∀ ps : List Parameter, (ps ++ options.map Prod.fst).Nodup →
      (options.map attached).foldlM Draft.word (drafted a ps) =
        .ok (drafted a (ps ++ options.map Prod.fst)) := by
  induction options with
  | nil =>
      intro ps _
      simp only [List.map_nil, List.append_nil]
      rfl
  | cons o options ih =>
      intro ps hnodup
      rw [List.forall_mem_cons] at h
      obtain ⟨⟨hnamed, hspelled⟩, hrest⟩ := h
      rw [List.map_cons] at hnodup
      have hp : o.1 ∉ ps := fun hmem =>
        (List.nodup_append.mp hnodup).2.2 _ hmem _ List.mem_cons_self rfl
      rw [List.append_cons] at hnodup
      have hword := word_attached ha hnamed hspelled hp
      simp only [List.map_cons, List.foldlM_cons, hword, bind, Except.bind]
      rw [ih hrest _ hnodup, ← List.append_cons]

/-! ## Command lines -/

end CommandLine

namespace Arguments

/-- The options there are, each with what spells its value. -/
def options (a : Arguments) : List (Parameter × List UInt8) :=
  Parameter.named.filterMap fun p => (a.spelled p).map fun bytes => (p, bytes)

/-- The words behind the options: the mark and the prompt, if there is one. -/
def tail (a : Arguments) : List (List UInt8) :=
  match a.spelled .prompt with
  | none => []
  | some bytes => [CommandLine.mark, bytes]

/-- The words that arguments are written as: one for each option there is, in any order, and then
the prompt, if there is one, behind the mark that ends the options.  The order is any at all, but
the prompt goes last: what stands behind the mark is never an option, however it looks. -/
inductive WrittenAs (a : Arguments) : List (List UInt8) → Prop
  | inOrder {words : List (List UInt8)} (h : words.Perm (a.options.map CommandLine.attached)) :
      WrittenAs a (words ++ a.tail)

theorem mem_options {a : Arguments} {o : Parameter × List UInt8} :
    o ∈ a.options ↔ o.1 ∈ Parameter.named ∧ a.spelled o.1 = some o.2 := by
  obtain ⟨p, bytes⟩ := o
  simp only [options, List.mem_filterMap, Option.map_eq_some_iff, Prod.mk.injEq]
  constructor
  · rintro ⟨_, hnamed, _, hspelled, rfl, rfl⟩
    exact ⟨hnamed, hspelled⟩
  · rintro ⟨hnamed, hspelled⟩
    exact ⟨p, hnamed, bytes, hspelled, rfl, rfl⟩

/-- The parameters of the options, in whatever order these are. -/
theorem mem_given {a : Arguments} {options : List (Parameter × List UInt8)}
    (h : options.Perm a.options) {p : Parameter} :
    p ∈ options.map Prod.fst ↔ p ∈ Parameter.named ∧ (a.spelled p).isSome := by
  simp only [List.mem_map, h.mem_iff, mem_options, Option.isSome_iff_exists]
  constructor
  · rintro ⟨o, ⟨hnamed, hspelled⟩, rfl⟩
    exact ⟨hnamed, o.2, hspelled⟩
  · rintro ⟨hnamed, bytes, hspelled⟩
    exact ⟨(p, bytes), ⟨hnamed, hspelled⟩, rfl⟩

theorem prompt_or_named (p : Parameter) : p = .prompt ∨ p ∈ Parameter.named := by
  cases p <;> decide

theorem nodup_options (a : Arguments) : (a.options.map Prod.fst).Nodup := by
  have hnamed : Parameter.named.Nodup := by decide
  rw [options, List.map_filterMap]
  refine List.Nodup.filterMap (fun p p' q hp hp' => ?_) hnamed
  simp only [Option.mem_def, Option.map_map, Option.map_eq_some_iff, Function.comp] at hp hp'
  obtain ⟨_, _, rfl⟩ := hp
  obtain ⟨_, _, rfl⟩ := hp'
  rfl

end Arguments

namespace CommandLine

/-- The words of the options, as they stand, come from options in some order. -/
theorem exists_options {a : Arguments} {words : List (List UInt8)}
    (h : words.Perm (a.options.map attached)) :
    ∃ options : List (Parameter × List UInt8),
      options.Perm a.options ∧ words = options.map attached := by
  have hcomp : Relation.Comp (· = List.map attached ·) List.Perm words a.options := by
    rw [List.eq_map_comp_perm]
    exact h
  obtain ⟨options, hwords, hperm⟩ := hcomp
  exact ⟨options, hperm, hwords⟩

/-- Options alone are in no conflict. -/
theorem filter_options {ps : List Parameter} (hnodup : ps.Nodup) (hprompt : .prompt ∉ ps) :
    ps.filter (fun p => p = .prompt || p = .source) = if .source ∈ ps then [.source] else [] := by
  have hsame : ps.filter (fun p => p = .prompt || p = .source) = ps.filter (· = .source) :=
    List.filter_congr fun p hp => by
      have hne : p ≠ .prompt := fun h => hprompt (h ▸ hp)
      simp [hne]
  rw [hsame, List.filter_eq, hnodup.count]
  split <;> rfl

/-- What a command line without a prompt comes to. -/
theorem parse_options {e : Environment} (henv : e.get? Service.Endpoint.variableName = none)
    {a : Arguments} {words : List (List UInt8)} {ps : List Parameter} (hnodup : ps.Nodup)
    (hprompt : .prompt ∉ ps) (h : words.foldlM Draft.word {} = .ok (drafted a ps)) :
    parse e words = .ok (a.only ps) := by
  have hfilter : (drafted a ps).given.filter (fun p => p = .prompt || p = .source) =
      if .source ∈ ps then [.source] else [] := filter_options hnodup hprompt
  have hclear : (drafted a ps).checkConflict = .ok () := by
    rw [Draft.checkConflict, hfilter]
    by_cases hsource : .source ∈ ps
    · rw [if_pos hsource]
    · rw [if_neg hsource]
  have hsettle : (drafted a ps).settle = .ok (drafted a ps) := rfl
  simp only [parse, h, hsettle, Draft.fromEnvironment, henv, hclear, bind, Except.bind]
  rfl

/-- What a command line with a prompt comes to. -/
theorem parse_options_prompt {e : Environment}
    (henv : e.get? Service.Endpoint.variableName = none) {a : Arguments} (ha : a.Sound)
    {bytes : List UInt8} (hbytes : a.spelled .prompt = some bytes) {words : List (List UInt8)}
    {ps : List Parameter} (hnodup : ps.Nodup) (hprompt : .prompt ∉ ps)
    (h : words.foldlM Draft.word {} = .ok (drafted a ps)) :
    parse e (words ++ [mark, bytes]) =
      if .source ∈ ps then .error (.conflict .source .prompt)
      else .ok (a.only (ps ++ [.prompt])) := by
  have hmark : (drafted a ps).word mark = .ok { drafted a ps with escaped := true } := rfl
  have hfree : Draft.hasPrompt { drafted a ps with escaped := true } = false := by
    simpa [Draft.hasPrompt, drafted] using hprompt
  have halone : Draft.word { drafted a ps with escaped := true } bytes =
      .ok { drafted a ps with escaped := true, pending := some (.prompt, some bytes) } := by
    simp only [Draft.word, Draft.alone, hfree, if_true, Bool.false_eq_true, if_false]
    rfl
  have hsettle : Draft.settle
      { drafted a ps with escaped := true, pending := some (.prompt, some bytes) } =
        .ok { drafted a (ps ++ [.prompt]) with escaped := true } :=
    take_drafted ha hbytes hprompt true
  have hfilter : (drafted a (ps ++ [.prompt])).given.filter (fun p => p = .prompt || p = .source) =
      (if .source ∈ ps then [.source] else []) ++ [.prompt] := by
    rw [drafted, List.filter_append, filter_options hnodup hprompt]
    rfl
  have hconflict : Draft.checkConflict { drafted a (ps ++ [.prompt]) with escaped := true } =
      if .source ∈ ps then .error (.conflict .source .prompt) else .ok () := by
    rw [Draft.checkConflict, hfilter]
    by_cases hsource : .source ∈ ps
    · rw [if_pos hsource, if_pos hsource]
      rfl
    · rw [if_neg hsource, if_neg hsource]
      rfl
  simp only [parse, List.foldlM_append, h, List.foldlM_cons, List.foldlM_nil, hmark, halone,
    hsettle, Draft.fromEnvironment, henv, hconflict, bind, Except.bind, pure, Except.pure]
  by_cases hsource : .source ∈ ps
  · rw [if_pos hsource, if_pos hsource]
  · rw [if_neg hsource, if_neg hsource]
    rfl

/-- **A command line is read as it was written**, unless it has both a prompt and a source, which is
refused whatever else is there.  The variable has to be missing, since it would stand in for an
endpoint that is not among the words, and other arguments would come of them. -/
theorem parse_written {e : Environment} (henv : e.get? Service.Endpoint.variableName = none)
    {a : Arguments} (ha : a.Sound) {words : List (List UInt8)} (hwords : a.WrittenAs words) :
    (a.prompt = none ∨ a.source = none → parse e words = .ok a) ∧
      (a.prompt.isSome ∧ a.source.isSome → parse e words = .error (.conflict .source .prompt)) := by
  obtain ⟨hperm⟩ := hwords
  obtain ⟨options, hoptions, rfl⟩ := exists_options hperm
  have hnodup : (options.map Prod.fst).Nodup :=
    (hoptions.map Prod.fst).nodup_iff.mpr a.nodup_options
  have hrun : (options.map attached).foldlM Draft.word {} =
      .ok (drafted a (options.map Prod.fst)) :=
    words_attached ha (fun o ho => Arguments.mem_options.mp (hoptions.mem_iff.mp ho)) [] hnodup
  have hgiven {p : Parameter} := Arguments.mem_given hoptions (p := p)
  have hprompt : .prompt ∉ options.map Prod.fst := fun h => by simp [hgiven, Parameter.named] at h
  have hsource : .source ∈ options.map Prod.fst ↔ a.source.isSome := by
    simp [hgiven, Parameter.named, Arguments.spelled]
  cases htext : a.prompt with
  | none =>
      have hnone : a.spelled .prompt = none := by rw [Arguments.spelled, htext, Option.map_none]
      have hall : a.only (options.map Prod.fst) = a := by
        refine Arguments.only_eq_self fun p hp => ?_
        obtain rfl | hnamed := Arguments.prompt_or_named p
        · simp [hnone] at hp
        · exact hgiven.mpr ⟨hnamed, hp⟩
      have hparse := parse_options henv hnodup hprompt hrun
      rw [hall] at hparse
      rw [Arguments.tail, hnone, List.append_nil]
      exact ⟨fun _ => hparse, fun h => by simp at h⟩
  | some text =>
      have hsome : a.spelled .prompt = some (Utf8.encode text.toList) := by
        rw [Arguments.spelled, htext, Option.map_some]
      have hall : a.only (options.map Prod.fst ++ [.prompt]) = a := by
        refine Arguments.only_eq_self fun p hp => List.mem_append.mpr ?_
        obtain rfl | hnamed := Arguments.prompt_or_named p
        · exact .inr (List.mem_singleton_self _)
        · exact .inl (hgiven.mpr ⟨hnamed, hp⟩)
      have hparse := parse_options_prompt henv ha hsome hnodup hprompt hrun
      rw [hall] at hparse
      rw [Arguments.tail, hsome, hparse]
      refine ⟨fun h => if_neg ?_, fun h => if_pos (hsource.mpr h.2)⟩
      obtain h | h := h
      · cases h
      · rw [hsource, h]
        exact Bool.false_ne_true

/-- Values full of dashes, equals signs, blanks and separators, in an order of their own. -/
theorem parse_written_cryptic :
    parse {} (["--export=-=.x/--size=1x1.PNG", "--timeout=18446744073709551615", "--config=--=",
        "--size=20x4294967295", "--endpoint= x=X ", "--", "--source=é"].map
          (Utf8.encode ·.toList)) =
      .ok {
        prompt := some "--source=é"
        endpoint := some " x=X "
        timeout := some 18446744073709551615
        size := some ⟨20, 4294967295⟩
        exportTo := some (.ofText "-=.x/--size=1x1.PNG")
        config := some (.ofText "--=") } ∧
    parse {} (["--timeout=0", "--source= ", "--", ""].map (Utf8.encode ·.toList)) =
      .error (.conflict .source .prompt) := by
  have hcryptic : Arguments.Sound {
      prompt := some "--source=é"
      endpoint := some " x=X "
      timeout := some 18446744073709551615
      size := some ⟨20, 4294967295⟩
      exportTo := some (.ofText "-=.x/--size=1x1.PNG")
      config := some (.ofText "--=") } :=
    { source := nofun
      config := by rintro _ ⟨⟩; decide
      timeout := by rintro _ ⟨⟩; decide
      size := by rintro _ ⟨⟩; decide
      exportTo := by rintro _ ⟨⟩; exact ⟨"-=.x/--size=1x1.PNG", by decide⟩ }
  have hboth : Arguments.Sound {
      prompt := some ""
      source := some (.ofText " ")
      timeout := some 0 } :=
    { source := by rintro _ ⟨⟩; decide
      config := nofun
      timeout := by rintro _ ⟨⟩; decide
      size := nofun
      exportTo := nofun }
  constructor
  · refine (parse_written (e := {}) rfl hcryptic ?_).1 (.inr rfl)
    refine @Arguments.WrittenAs.inOrder _ (["--export=-=.x/--size=1x1.PNG",
      "--timeout=18446744073709551615", "--config=--=", "--size=20x4294967295",
      "--endpoint= x=X "].map (Utf8.encode ·.toList)) ?_
    decide
  · refine (parse_written (e := {}) rfl hboth ?_).2 ⟨rfl, rfl⟩
    refine @Arguments.WrittenAs.inOrder _
      (["--timeout=0", "--source= "].map (Utf8.encode ·.toList)) ?_
    decide

end CommandLine

end ShaderSketch
