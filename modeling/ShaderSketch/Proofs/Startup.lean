import ShaderSketch.Proofs.Checks
import ShaderSketch.Viewer.Session

/-!
# Checks before anything opens

A run that finds a fault leaves no trace but its error, since it looks at everything before it opens
anything.  When something that every run needs cannot be opened, nothing is left either but what is
open by then.

## Main definitions

* `Viewer.Session.GoesOn` — a later state of a session
* `Viewer.Careful` — a run that checks everything before it opens anything

## Main results

* `Viewer.Desktop.launch_of_refused` : the first refusal ends the opening
* `Viewer.Session.goesOn_steps` : a stream is read during a whole session or not at all
* `Viewer.run_careful` : every run is careful

## Design notes

Whether a stream is read is seen at the end of a session.  That it was read from the start is an
invariant of the steps, which is proved along with the one for the log.
-/

namespace ShaderSketch.Viewer

variable {d : Desktop} {e : Environment} {files : Tree} {a : Arguments} {failure : Error}

/-! ## Opening -/

namespace Desktop

/-- What can be opened is opened. -/
theorem launch_of_granted {facilities : List Facility}
    (h : ∀ facility ∈ facilities, d.refusal? facility = none) :
    d.launch facilities = (facilities, none) := by
  induction facilities with
  | nil => rfl
  | cons facility rest ih =>
      rw [launch, h facility List.mem_cons_self, ih fun f hf => h f (List.mem_cons_of_mem _ hf)]

/-- **The first refusal ends it**: only what comes before is open then.  What comes behind the
refusal is not asked whether it would be refused as well. -/
theorem launch_of_refused {before after : List Facility} {facility : Facility}
    (hbefore : ∀ f ∈ before, d.refusal? f = none) (h : d.refusal? facility = some failure) :
    d.launch (before ++ facility :: after) = (before, some failure) := by
  induction before with
  | nil => rw [List.nil_append, launch, h]
  | cons f rest ih =>
      rw [List.cons_append, launch, hbefore f List.mem_cons_self,
        ih fun f hf => hbefore f (List.mem_cons_of_mem _ hf)]

/-- Facilities can all be opened, or one of them is the first that cannot. -/
theorem granted_or_refused (d : Desktop) (facilities : List Facility) :
    (∀ f ∈ facilities, d.refusal? f = none) ∨
      ∃ before facility after failure, facilities = before ++ facility :: after ∧
        (∀ f ∈ before, d.refusal? f = none) ∧ d.refusal? facility = some failure := by
  induction facilities with
  | nil => exact .inl (by simp)
  | cons f rest ih =>
      cases hf : d.refusal? f with
      | some failure => exact .inr ⟨[], f, rest, failure, rfl, by simp, hf⟩
      | none =>
          rcases ih with hrest | ⟨before, facility, after, failure, rfl, hbefore, h⟩
          · exact .inl (List.forall_mem_cons.mpr ⟨hf, hrest⟩)
          · exact .inr ⟨f :: before, facility, after, failure, rfl,
              List.forall_mem_cons.mpr ⟨hf, hbefore⟩, h⟩

end Desktop

/-! ## Sessions -/

namespace Session

variable {s s' s'' : Session}

/-- A session goes on as another: it keeps its log, and it reads a stream if and only if it did
before.  It goes for one step as for many, so that it is passed on from each to the next. -/
structure GoesOn (s s' : Session) : Prop where
  log : s.log <+: s'.log
  reader : s'.reader.isSome = s.reader.isSome

theorem GoesOn.refl (s : Session) : GoesOn s s := ⟨List.prefix_rfl, rfl⟩

theorem GoesOn.trans (h : GoesOn s s') (h' : GoesOn s' s'') : GoesOn s s'' :=
  ⟨h.log.trans h'.log, h'.reader.trans h.reader⟩

theorem goesOn_keep (s : Session) (entry : LogEntry) : GoesOn s (s.keep entry) :=
  ⟨List.prefix_append _ _, rfl⟩

theorem goesOn_onSurface (s : Session) (f : MemorySurface → MemorySurface) :
    GoesOn s (s.onSurface f) := ⟨List.prefix_rfl, rfl⟩

theorem goesOn_deliver (s : Session) (name : String) (event : Event) :
    GoesOn s (s.deliver name event) := ⟨List.prefix_append _ _, rfl⟩

theorem goesOn_deliverResult (s : Session) (name : String)
    (result : Except Service.Failure String) : GoesOn s (s.deliverResult name result) := by
  have hanswered := goesOn_deliver s name (.answered result)
  unfold deliverResult
  dsimp only
  split
  · -- that no request runs any more is seen in neither
    have hsuperseded := hanswered.trans (goesOn_deliver _ "superseded"
      (.answered (s.deliver name (.answered result)).result))
    exact ⟨hsuperseded.log, hsuperseded.reader⟩
  · exact hanswered

theorem goesOn_prompts (s : Session) (name : String) (prompts : List String) :
    GoesOn s (prompts.foldl (fun s prompt => s.deliver name (.prompted prompt)) s) := by
  induction prompts generalizing s with
  | nil => exact .refl s
  | cons prompt prompts ih => exact (goesOn_deliver s name (.prompted prompt)).trans (ih _)

/-- Prompts are delivered as long as there is a reader, and the reader stays. -/
theorem goesOn_deliverPrompts (s : Session) (name : String)
    (read : Prompts.Reader → List String × Prompts.Reader) :
    GoesOn s (s.deliverPrompts name read) := by
  unfold deliverPrompts
  split
  · exact goesOn_keep s _
  · next reader hreader =>
      split
      · have hread : GoesOn s { s with reader := some (read reader).2 } :=
          ⟨List.prefix_rfl, by rw [hreader]; rfl⟩
        dsimp only
        split
        · exact hread.trans (goesOn_keep _ _)
        · exact hread.trans (goesOn_prompts _ _ _)
      · exact goesOn_keep s _

/-- No step starts a reader or ends one, or takes back what was logged. -/
theorem goesOn_step (s : Session) (name : String) (step : Step) : GoesOn s (s.step name step) := by
  cases step with
  | event e => exact goesOn_deliver s name e
  | resize width height =>
      exact (goesOn_onSurface s (·.resize width height)).trans
        (goesOn_deliver _ name (.resized width height))
  | answered result => exact goesOn_deliverResult s name result
  | answerRequest => exact goesOn_keep s _
  | typed bytes => exact goesOn_deliverPrompts s name (·.feed bytes)
  | typedEnd => exact goesOn_deliverPrompts s name (·.finish)
  | spoilFrame reason => exact goesOn_onSurface s (·.spoilNextFrame reason)
  | injure injury => exact goesOn_onSurface s _

/-- **A stream is read during a whole session or not at all**, and the log only grows. -/
theorem goesOn_steps (s : Session) (script : List (String × Step)) :
    GoesOn s (s.steps script) := by
  induction script generalizing s with
  | nil => exact .refl s
  | cons entry script ih =>
      rw [steps]
      split
      · exact .refl s
      · exact (goesOn_step s _ _).trans (ih _)

theorem goesOn_finish (s : Session) : GoesOn s s.finish := by
  have hended := goesOn_deliver s "loop_exiting" .ending
  unfold finish
  dsimp only
  split
  · exact hended.trans (goesOn_keep _ _)
  · exact hended

end Session

/-! ## Whole runs -/

/-- Prompts are read while a plan is carried out unless a picture is asked for, or the source comes
from a file. -/
theorem readsPrompts_iff {p : Plan} (h : plan e files a = .ok p) :
    p.readsPrompts = true ↔ a.exportTo = none ∧ ∀ path, ¬ Options.Opens a (.file path) := by
  have hoptions := (plan_eq_ok_iff.mp h).1
  rw [Plan.readsPrompts, opening_of_options hoptions, exportTo_of_options hoptions,
    Bool.and_eq_true, Option.isNone_iff_eq_none]
  simp only [opens_iff]
  cases Options.chooseOpening a <;> simp

/-- A session starts with a reader where prompts are read and one can be started. -/
theorem isSome_reader_opened (d : Desktop) (p : Plan) (files : Tree) :
    (Session.opened d p files).reader.isSome = true ↔
      p.readsPrompts = true ∧ d.refusesReader = false := by
  rw [Session.opened]
  dsimp only
  split
  · next hreads => simpa using hreads
  · next hreads => simpa using hreads

/-- A run that all is granted to goes on from a session with an open window. -/
theorem run_of_granted {p : Plan} (h : plan e files a = .ok p)
    (hgranted : ∀ f ∈ Facility.needed, d.refusal? f = none) (script : List (String × Step)) :
    ∃ s, Session.GoesOn (Session.opened d p files) s ∧ (run d e files a script).log = s.log ∧
      (run d e files a script).opened =
        Facility.needed ++ if s.reader.isSome then [.reader] else [] := by
  refine ⟨(((Session.opened d p files).deliver "init" .started).steps script).finish, ?_, ?_, ?_⟩
  · exact ((Session.goesOn_deliver _ _ _).trans (Session.goesOn_steps _ script)).trans
      (Session.goesOn_finish _)
  · rw [run, h, Desktop.launch_of_granted hgranted]
  · rw [run, h, Desktop.launch_of_granted hgranted]

/-- A run that something is refused to is over. -/
theorem run_of_refused {p : Plan} (h : plan e files a = .ok p) {before after : List Facility}
    {facility : Facility} (hneeded : Facility.needed = before ++ facility :: after)
    (hbefore : ∀ f ∈ before, d.refusal? f = none) (hrefused : d.refusal? facility = some failure)
    (script : List (String × Step)) :
    run d e files a script = { opened := before, failure := some failure, files } := by
  rw [run, h, hneeded, Desktop.launch_of_refused hbefore hrefused]

/-- What comes before another thing that is needed is neither the window nor a reader. -/
theorem not_mem_before {before after : List Facility} {facility : Facility}
    (hneeded : Facility.needed = before ++ facility :: after) :
    .window ∉ before ∧ .reader ∉ before := by
  -- the window is the last of what is needed, and a reader is none of it
  have hbefore : ∀ f ∈ before, f ∈ Facility.needed.dropLast := by
    intro f hf
    rw [hneeded, List.dropLast_append_cons]
    exact List.mem_append_left _ hf
  exact ⟨fun h => absurd (hbefore _ h) (by decide), fun h => absurd (hbefore _ h) (by decide)⟩

/-- There is a reader exactly in sessions that read prompts, where one can be started. -/
theorem reader_mem_iff (d : Desktop) (e : Environment) (files : Tree) (a : Arguments)
    (script : List (String × Step)) :
    .reader ∈ (run d e files a script).opened ↔
      .window ∈ (run d e files a script).opened ∧ d.refusesReader = false ∧ a.exportTo = none ∧
        ∀ path, ¬ Options.Opens a (.file path) := by
  cases hplan : plan e files a with
  | error failure =>
      rw [run, hplan]
      simp
  | ok p =>
      rcases d.granted_or_refused Facility.needed with hgranted | ⟨before, facility, after, failure,
        hneeded, hbefore, hrefused⟩
      · obtain ⟨s, hs, -, hopened⟩ := run_of_granted hplan hgranted script
        have hmem : .reader ∈ (run d e files a script).opened ↔ s.reader.isSome = true := by
          rw [hopened, List.mem_append]
          cases s.reader.isSome <;> decide
        have hwindow : .window ∈ (run d e files a script).opened := by
          rw [hopened]
          exact List.mem_append_left _ (by decide)
        rw [hmem, hs.reader, isSome_reader_opened, readsPrompts_iff hplan]
        tauto
      · obtain ⟨hwindow, hreader⟩ := not_mem_before hneeded
        rw [run_of_refused hplan hneeded hbefore hrefused]
        exact iff_of_false hreader fun h => hwindow h.1

/-- A run that checks everything before it opens anything.

* The check that fails first is heard of, and nothing else comes of the run: nothing is opened, the
  log is empty, so no frame is shown and no request is sent, and the files stay as they were.
* The same holds after all checks passed, when something that is needed cannot be opened, but for
  what was open before; there is no reader then.
* Else the window is open before anything else happens.
* A stream is read exactly when the window came to be, no picture is asked for, and the source does
  not come from a file, unless no reader can be started at all.

In the first two cases the run is told as a whole, so that all which is not mentioned there is
empty. -/
structure Careful (d : Desktop) (e : Environment) (files : Tree) (a : Arguments)
    (script : List (String × Step)) : Prop where
  refused : ∀ c failure, FailsFirst e files a c failure →
    run d e files a script = { failure := some failure, files }
  first : ∀ c failure, Fails e files a c failure → ∃ c' failure', FailsFirst e files a c' failure'
  unopened : (∀ c failure, ¬ Fails e files a c failure) → ∀ before facility after failure,
    Facility.needed = before ++ facility :: after → (∀ f ∈ before, d.refusal? f = none) →
      d.refusal? facility = some failure →
        .reader ∉ before ∧
          run d e files a script = { opened := before, failure := some failure, files }
  opened : (∀ c failure, ¬ Fails e files a c failure) →
    (∀ f ∈ Facility.needed, d.refusal? f = none) →
      ∃ p, plan e files a = .ok p ∧ Facility.needed <+: (run d e files a script).opened ∧
        [.opened p.options.window] <+: (run d e files a script).log
  reader : .reader ∈ (run d e files a script).opened ↔
    .window ∈ (run d e files a script).opened ∧ d.refusesReader = false ∧ a.exportTo = none ∧
      ∀ path, ¬ Options.Opens a (.file path)

/-- **Everything is checked before anything opens.**  Nothing is asked of the desktop, so that it
may refuse any of its facilities. -/
theorem run_careful (d : Desktop) (e : Environment) (files : Tree) (a : Arguments)
    (script : List (String × Step)) : Careful d e files a script where
  refused c failure hfirst := by rw [run, plan_eq_error_iff.mpr ⟨c, hfirst⟩]
  first c failure hfails := hfails.exists_first
  unopened hpassed before facility after failure hneeded hbefore hrefused := by
    obtain ⟨p, hplan⟩ := exists_plan_iff.mpr hpassed
    exact ⟨(not_mem_before hneeded).2, run_of_refused hplan hneeded hbefore hrefused script⟩
  opened hpassed hgranted := by
    obtain ⟨p, hplan⟩ := exists_plan_iff.mpr hpassed
    obtain ⟨s, hs, hlog, hopened⟩ := run_of_granted hplan hgranted script
    refine ⟨p, hplan, ?_, ?_⟩
    · rw [hopened]
      exact List.prefix_append _ _
    · rw [hlog]
      exact hs.log
  reader := reader_mem_iff d e files a script

end ShaderSketch.Viewer
