import Mathlib.Data.List.TakeWhile
import ShaderSketch.Proofs.Preamble
import ShaderSketch.Proofs.Verdict

/-!
# Judgements of sources

What comes of drawing a source is told from the source alone: whether its brackets match, whether it
speaks of `main`, and what it declares.  The preamble that is put into it moves brackets to other
lines and does nothing else.

## Main definitions

* `Gl.WellFormed` — a source that compiles
* `Frame.Judged` — a result that fits to a source
* `MemorySurface.resizable` — the surface in memory, to which nothing happens but new sizes

## Main results

* `Frame.judged` : the judgement on a source fits to it
* `Canvas.draw_judged` : so does the result of drawing it on any canvas
-/

namespace ShaderSketch

/-! ## Sources that compile -/

namespace Gl

/-- A source that compiles: what it opens it closes again, in the right order, and it speaks of
`main`.  The lines of a source play no part in this, so that it cannot be changed by a preamble
which opens and closes nothing. -/
structure WellFormed (s : List Char) : Prop where
  nested : Nested s
  closed : Closed s
  main : "main".toList <:+: s

theorem WellFormed.checkBrackets {s : List Char} (h : WellFormed s) : checkBrackets s = .ok () := by
  rw [(checkBrackets_of_nested h.nested).2 h.closed, if_pos (Text.contains_iff.mpr h.main)]

/-- **The check finds something in whatever is not well-formed.**  Which error it finds depends on
where the offence is, and that is told by `Found` and not here. -/
theorem checkBrackets_of_not_wellFormed {s : List Char} (h : ¬ WellFormed s) :
    ∃ e, checkBrackets s = .error e := by
  obtain nested | ⟨p, b, r, hoffence⟩ := nested_or_offence s
  · by_cases closed : Closed s
    · have hmain : ¬ Text.contains "main".toList s :=
        fun hmain => h ⟨nested, closed, Text.contains_iff.mp hmain⟩
      exact ⟨_, by rw [(checkBrackets_of_nested nested).2 closed, if_neg hmain]⟩
    · exact ⟨_, (checkBrackets_of_nested nested).1 closed⟩
  · exact ⟨_, checkBrackets_of_offence hoffence⟩

theorem infix_main_compiledText {s : List Char} :
    "main".toList <:+: Shader.compiledText s ↔ "main".toList <:+: s :=
  Shader.infix_compiledText (by decide) (by rw [← Text.contains_iff]; decide)

/-- **The preamble makes no source well-formed, and none ill-formed.**  Both directions are needed:
a source must not be saved by what is put into it. -/
theorem wellFormed_compiledText {s : List Char} :
    WellFormed (Shader.compiledText s) ↔ WellFormed s := by
  constructor
  · rintro ⟨nested, closed, main⟩
    exact ⟨Shader.nested_compiledText.mp nested, Shader.closed_compiledText.mp closed,
      infix_main_compiledText.mp main⟩
  · rintro ⟨nested, closed, main⟩
    exact ⟨Shader.nested_compiledText.mpr nested, Shader.closed_compiledText.mpr closed,
      infix_main_compiledText.mpr main⟩

theorem SyntaxError.message_ne_empty (e : SyntaxError) : e.message ≠ "" := by
  intro h
  have hlist := congrArg String.toList h
  cases e <;> simp [message] at hlist

/-! ## Names that are declared -/

theorem lastWord?_visible {s word : List Char} (h : Text.lastWord? s = some word) :
    ∀ c ∈ word, Text.isBlank c = false := by
  unfold Text.lastWord? at h
  split at h
  · cases h
  · obtain rfl := Option.some.inj h
    intro c hc
    simpa using List.mem_takeWhile_imp (List.mem_reverse.mp hc)

/-- No name has a blank in it. -/
theorem declaredName?_visible {qualifier line name : List Char}
    (h : declaredName? qualifier line = some name) : ∀ c ∈ name, Text.isBlank c = false := by
  simp only [declaredName?, Option.bind_eq_bind, Option.bind_eq_some_iff, Option.pure_def,
    Option.some.injEq] at h
  obtain ⟨rest, -, -, -, word, hword, rfl⟩ := h
  exact fun c hc => lastWord?_visible hword c ((List.takeWhile_prefix _).subset hc)

theorem toList_missingVarying (name : String) :
    (missingVarying name).toList = "error: varying `".toList ++ name.toList ++
      "` is not written by the vertex shader".toList := by
  change ("error: varying `" ++ name ++ "` is not written by the vertex shader").toList = _
  rw [String.toList_append, String.toList_append]

/-- What is said of a name without blanks is a line. -/
theorem missingVarying_line {name : String} (h : ∀ c ∈ name.toList, Text.isBlank c = false) :
    (missingVarying name).toList ≠ [] ∧ '\n' ∉ (missingVarying name).toList ∧
      Text.dropReturn (missingVarying name).toList = (missingVarying name).toList := by
  have hname : '\n' ∉ name.toList := fun hmem => absurd (h _ hmem) (by decide)
  rw [toList_missingVarying]
  refine ⟨by simp, by simp [hname], ?_⟩
  rw [Text.dropReturn, List.getLast?_append]
  rfl

/-- The names that are missing are told one on a line. -/
theorem lines_missing (qualifier : String) (s : List Char) :
    Text.lines ("\n".intercalate ((declaredNames qualifier s).map missingVarying)).toList =
      (declaredNames qualifier s).map fun name => (missingVarying name).toList := by
  have hvisible (name : String) (hname : name ∈ declaredNames qualifier s) :
      ∀ c ∈ name.toList, Text.isBlank c = false := by
    obtain ⟨line, -, hline⟩ := List.mem_filterMap.mp hname
    obtain ⟨word, hword, rfl⟩ := Option.map_eq_some_iff.mp hline
    rw [String.toList_ofList]
    exact declaredName?_visible hword
  rw [String.toList_intercalate, List.map_map]
  refine Text.lines_intercalate fun l hl => ?_
  obtain ⟨name, hname, rfl⟩ := List.mem_map.mp hl
  exact missingVarying_line (hvisible name hname)

/-- The vertex stage writes nothing for a fragment stage to read. -/
theorem missingVaryings_vertexSource (s : List Char) :
    missingVaryings Shader.vertexSource.toList s = declaredNames "varying" s := by
  have hnone : declaredNames "varying" Shader.vertexSource.toList = [] := by decide
  simp [missingVaryings, hnone]

theorem varyings_compiledText (s : List Char) :
    declaredNames "varying" (Shader.compiledText s) = declaredNames "varying" s :=
  Shader.declaredNames_compiledText (by decide) (by decide) (by decide) s

end Gl

/-! ## What is found in a source -/

namespace Frame

open Gl Shader

/-- What is found in a text: nothing, names that the vertex stage does not write, or that it does
not compile. -/
inductive Finding (s : List Char) : Except Canvas.Failure Unit → Prop
  | fine (wellFormed : WellFormed s) (nothing : declaredNames "varying" s = []) :
      Finding s (.ok ())
  | unwritten (wellFormed : WellFormed s) (names : declaredNames "varying" s ≠ []) :
      Finding s
        (.error (.linking ("\n".intercalate ((declaredNames "varying" s).map missingVarying))))
  | malformed (illFormed : ¬ WellFormed s) (e : SyntaxError) :
      Finding s (.error (.compilation .fragment e.message))

theorem judgement_of_error {s : List Char} {e : SyntaxError} (h : checkBrackets s = .error e) :
    judgement s = .error (.compilation .fragment e.message) := by
  rw [judgement, h]

/-- **The judgement says what is found.** -/
theorem finding (s : List Char) : Finding s (judgement s) := by
  by_cases hs : WellFormed s
  · rw [judgement, hs.checkBrackets, checkStages, missingVaryings_vertexSource]
    dsimp only
    split
    · rename_i hnames
      exact .fine hs hnames
    · rename_i hnames
      exact .unwritten hs hnames
  · obtain ⟨e, herror⟩ := checkBrackets_of_not_wellFormed hs
    rw [judgement_of_error herror]
    exact .malformed hs e

theorem judgement_eq_ok {s : List Char} :
    judgement s = .ok () ↔ WellFormed s ∧ declaredNames "varying" s = [] := by
  have hfinding := finding s
  generalize judgement s = result at hfinding ⊢
  cases hfinding with
  | fine wellFormed nothing => exact iff_of_true rfl ⟨wellFormed, nothing⟩
  | unwritten _ names => exact iff_of_false nofun fun h => names h.2
  | malformed illFormed _ => exact iff_of_false nofun fun h => illFormed h.1

theorem judgement_eq_compilation {s : List Char} :
    (∃ log, log ≠ "" ∧ judgement s = .error (.compilation .fragment log)) ↔ ¬ WellFormed s := by
  have hfinding := finding s
  generalize judgement s = result at hfinding ⊢
  cases hfinding with
  | fine wellFormed _ => exact iff_of_false (by simp) (not_not.mpr wellFormed)
  | unwritten wellFormed _ => exact iff_of_false (by simp) (not_not.mpr wellFormed)
  | malformed illFormed e => exact iff_of_true ⟨_, e.message_ne_empty, rfl⟩ illFormed

theorem judgement_eq_linking {s : List Char} {log : String} :
    judgement s = .error (.linking log) ↔
      (WellFormed s ∧ declaredNames "varying" s ≠ []) ∧
        log = "\n".intercalate ((declaredNames "varying" s).map missingVarying) := by
  have hfinding := finding s
  generalize judgement s = result at hfinding ⊢
  cases hfinding with
  | fine _ nothing => exact iff_of_false nofun fun h => h.1.2 nothing
  | unwritten wellFormed names => simp [wellFormed, names, eq_comm]
  | malformed illFormed _ => exact iff_of_false (by simp) fun h => illFormed h.1.1

/-! ## Judgements of sources -/

/-- A result that is told from the text of its source.  The line that is named for an offence is
counted in what is compiled, which has the preamble in it; `shift` is how far that is off from the
line in the source. -/
structure Judged (s : List Char) (result : Except Canvas.Failure Unit) : Prop where
  drawn : result = .ok () ↔ WellFormed s ∧ declaredNames "varying" s = []
  refused : (∃ log, log ≠ "" ∧ result = .error (.compilation .fragment log)) ↔ ¬ WellFormed s
  unlinked : (∃ log, result = .error (.linking log)) ↔
    WellFormed s ∧ declaredNames "varying" s ≠ []
  missing : ∀ log, result = .error (.linking log) →
    Text.lines log.toList = (declaredNames "varying" s).map fun name => (missingVarying name).toList
  same : Nested s → Closed s → result = judgement s
  unexpected : ∀ p b r, Offence s p b r →
    judgement s =
        .error (.compilation .fragment (SyntaxError.unexpected (p.count '\n' + 1) b).message) ∧
      result = .error (.compilation .fragment
        (SyntaxError.unexpected (p.count '\n' + 1 + shift s p) b).message)
  unclosed : Nested s → ¬ Closed s →
    judgement s =
        .error (.compilation .fragment (SyntaxError.unclosed (Text.lines s).length).message) ∧
      result = .error (.compilation .fragment
        (SyntaxError.unclosed ((Text.lines s).length + shift s s)).message)

/-- **What is compiled for a source is judged as the source is.** -/
theorem judged_compiledText (s : List Char) : Judged s (judgement (compiledText s)) where
  drawn := by rw [judgement_eq_ok, wellFormed_compiledText, varyings_compiledText]
  refused := by rw [judgement_eq_compilation, wellFormed_compiledText]
  unlinked := by
    simp only [judgement_eq_linking, wellFormed_compiledText, varyings_compiledText,
      exists_and_left, exists_eq, and_true]
  missing log h := by
    rw [judgement_eq_linking, varyings_compiledText] at h
    rw [h.2, lines_missing]
  same nested closed := by
    have nested' := nested_compiledText.mpr nested
    have closed' := closed_compiledText.mpr closed
    have hcheck : checkBrackets (compiledText s) = checkBrackets s := by
      rw [(checkBrackets_of_nested nested').2 closed', (checkBrackets_of_nested nested).2 closed]
      simp only [Text.contains_iff, infix_main_compiledText]
    rw [judgement, judgement, hcheck, checkStages, checkStages, missingVaryings_vertexSource,
      missingVaryings_vertexSource, varyings_compiledText]
  unexpected p b r h := by
    obtain ⟨p', r', h', hcount⟩ := offence_compiledText h
    rw [judgement_of_error (checkBrackets_of_offence h),
      judgement_of_error (checkBrackets_of_offence h'), hcount, Nat.add_right_comm]
    exact ⟨rfl, rfl⟩
  unclosed nested opened := by
    have nested' := nested_compiledText.mpr nested
    have opened' := mt closed_compiledText.mp opened
    rw [judgement_of_error ((checkBrackets_of_nested nested).1 opened),
      judgement_of_error ((checkBrackets_of_nested nested').1 opened'), length_lines_compiledText]
    exact ⟨rfl, rfl⟩

end Frame

/-! ## Canvases in memory -/

namespace MemorySurface

/-- The surface in memory, with nothing that happens to it but new sizes. -/
def resizable : Surface.World MemorySurface (UInt32 × UInt32) String where
  toSurface := plain
  happen size m := m.resize size.1 size.2
  hasContext_answer request m h := by
    cases request with
    | gl call => exact h
    | present =>
        change m.present.2.hasContext
        unfold present
        split <;> exact h
  hasContext_happen _ _ h := h

end MemorySurface

namespace Canvas

open MemorySurface

/-- A canvas in memory stays unhindered as long as it lives. -/
theorem unhindered_steps {c : Canvas MemorySurface} (h : c.surface.Unhindered)
    (life : List (Step (UInt32 × UInt32))) : (c.steps resizable life).surface.Unhindered :=
  steps_surface_induction (P := Unhindered) (fun request _ hx => hx.answer request)
    (fun _ _ hx => ⟨hx.context, hx.unbarred, hx.shown⟩) h life

/-- **Drawing a source ends with the judgement on its text**, whatever was drawn before.  Unhindered
means that a context is there, that nothing is barred, and that the frame is going to be shown: what
is left that can go wrong is the text. -/
theorem draw_judged {c : Canvas MemorySurface} (h : c.surface.Unhindered)
    (life : List (Step (UInt32 × UInt32))) (source : String) :
    Frame.Judged source.toList ((c.steps resizable life).draw plain source).1 := by
  have hrun := run_attempt (unhindered_steps h life) (c.steps resizable life).rectangle source false
  rw [Shader.toList_prepare] at hrun
  have hdraw : ((c.steps resizable life).draw plain source).1 =
      Frame.judgement (Shader.compiledText source.toList) := hrun
  rw [hdraw]
  exact Frame.judged_compiledText source.toList

/-- A brace on the third line of a source closes nothing, and the compiler finds it on the
seventh. -/
theorem draw_judged_directive :
    (⟨small.surface, none, 0⟩ : Canvas MemorySurface).surface.Unhindered ∧
      (((⟨small.surface, none, 0⟩ : Canvas MemorySurface).steps resizable
          [.draw "varying vec2 uv;", .change (640, 480)]).draw plain
          "#version 100\nvoid main() \x7b\n\x7d \x7d").1 =
        .error (.compilation .fragment "ERROR: 0:7: '\x7d' : syntax error") := by
  have h : (⟨small.surface, none, 0⟩ : Canvas MemorySurface).surface.Unhindered :=
    ⟨rfl, ⟨rfl, rfl, rfl⟩, rfl⟩
  have hoffence : Gl.Offence "#version 100\nvoid main() \x7b\n\x7d \x7d".toList
      "#version 100\nvoid main() \x7b\n\x7d ".toList '\x7d' [] :=
    { split := by decide
      before := Gl.nested_of_scan (d := {}) (by decide)
      here hnested := by
        obtain ⟨d, hd, -⟩ := hnested.scan
        cases hd }
  exact ⟨h, ((draw_judged h [.draw "varying vec2 uv;", .change (640, 480)] _).unexpected _ _ _
    hoffence).2.trans (by decide)⟩

end Canvas

end ShaderSketch
