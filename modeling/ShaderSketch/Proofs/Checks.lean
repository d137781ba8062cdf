import ShaderSketch.Proofs.Precedence
import ShaderSketch.Proofs.Results
import ShaderSketch.Proofs.Saved
import ShaderSketch.Viewer.Plan

/-!
# Checks of a plan

Settings, options and the source are looked at before there is a plan.  What is wrong with them is
found in this order, and of several faults the first is heard of.

## Main definitions

* `Viewer.Check`, `Viewer.Fails` — the checks, and what makes each of them fail
* `Viewer.FailsFirst` — a check that fails after all earlier ones passed

## Main results

* `Viewer.plan_eq_error_iff` : there is no plan exactly when a check fails, and the first that does
  is heard of
* `Viewer.exists_plan_iff` : there is a plan exactly when all checks pass

## Design notes

Each check is about the arguments and the files alone, whatever becomes of the other checks; only
the options take the settings for granted, and these take their place for granted.  The source can
be at fault beside any of them, and it is the order that says which fault is heard of.
-/

namespace ShaderSketch.Viewer

variable {e : Environment} {files : Tree} {a : Arguments} {failure : Error}

/-! ## The checks -/

/-- What is checked, in this order: that there is a place for settings, that those there can be
used, that there are options, and that the source is a text. -/
inductive Check
  | place
  | settings
  | options
  | source
  deriving DecidableEq

/-- The checks before a check. -/
def Check.earlier : Check → List Check
  | .place => []
  | .settings => [.place]
  | .options => [.place, .settings]
  | .source => [.place, .settings, .options]

/-- The source is looked at last. -/
theorem Check.earlier_or_source (c : Check) : c ∈ earlier .source ∨ c = .source := by
  cases c <;> decide

/-- Where the settings are looked for: in the file that the command line names, else in the
directory for them. -/
inductive SettingsAt (e : Environment) (a : Arguments) : Path → Prop
  | named {path : Path} (given : a.config = some path) : SettingsAt e a path
  | standard {directory : Path} (lacking : a.config = none)
      (known : e.configDirectory? = some directory) :
      SettingsAt e a (Environment.settingsFile directory)

/-- The settings of a run: those in their file, and the defaults where nothing is. -/
inductive Loaded (e : Environment) (files : Tree) (a : Arguments) : Settings → Prop
  | file {path : Path} {text : String} {s : Settings} (place : SettingsAt e a path)
      (read : files.readText path = .ok text) (parsed : Settings.ofText text = .ok s) :
      Loaded e files a s
  | missing {path : Path} (place : SettingsAt e a path) (missing : files.isThere path = false) :
      Loaded e files a {}

/-- What makes a check fail, and the error that tells it: no directory for settings that are not
named, a settings file that is there and cannot be read or makes no sense, settings that there are
no options with, and a source file that cannot be read as text.  This is said without the plan, in
terms of files and values alone, so that `plan_eq_error_iff` compares the plan with something else
than itself. -/
inductive Fails (e : Environment) (files : Tree) (a : Arguments) : Check → Error → Prop
  | homeless (lacking : a.config = none) (unknown : e.configDirectory? = none) :
      Fails e files a .place .noConfigDirectory
  | unreadable {path : Path} {reason : FileError} (place : SettingsAt e a path)
      (there : files.isThere path = true) (unread : files.readText path = .error reason) :
      Fails e files a .settings (.settings (.unreadable path reason))
  | malformed {path : Path} {text : String} {problem : Settings.Problem}
      (place : SettingsAt e a path) (read : files.readText path = .ok text)
      (refused : Settings.ofText text = .error problem) :
      Fails e files a .settings (.settings (.malformed path problem))
  | unresolved {s : Settings} {reason : Options.Error} (loaded : Loaded e files a s)
      (refused : Options.combine a s = .error reason) : Fails e files a .options (.options reason)
  | sourceless {path : Path} {reason : FileError} (opens : Options.Opens a (.file path))
      (unread : files.readText path = .error reason) :
      Fails e files a .source (.source path reason)

/-- A check fails, and no earlier one does.  No earlier check fails in any way, and not only not in
this one. -/
structure FailsFirst (e : Environment) (files : Tree) (a : Arguments) (c : Check)
    (failure : Error) : Prop where
  fails : Fails e files a c failure
  passed : ∀ c' ∈ c.earlier, ∀ failure', ¬ Fails e files a c' failure'

/-! ## What the checks look at -/

/-- Which file the settings are looked for in, told without the code that looks for it. -/
theorem settingsAt_iff {path : Path} : SettingsAt e a path ↔ settingsPath e a = .ok path := by
  constructor
  · rintro (given | ⟨lacking, known⟩)
    · rw [settingsPath, given]
    · rw [settingsPath, lacking, known]
  · intro h
    unfold settingsPath at h
    split at h
    · next given =>
        obtain rfl := Except.ok.inj h
        exact .named given
    · next lacking known =>
        obtain rfl := Except.ok.inj h
        exact .standard lacking known
    · cases h

theorem fails_place_iff : Fails e files a .place failure ↔ settingsPath e a = .error failure := by
  constructor
  · rintro ⟨lacking, unknown⟩
    rw [settingsPath, lacking, unknown]
  · intro h
    unfold settingsPath at h
    split at h
    · cases h
    · cases h
    · next lacking unknown =>
        obtain rfl := Except.error.inj h
        exact .homeless lacking unknown

/-- So with the settings that are found there. -/
theorem loaded_iff {s : Settings} : Loaded e files a s ↔
    ∃ path, settingsPath e a = .ok path ∧ Settings.load files path = .ok s := by
  constructor
  · rintro (⟨place, read, parsed⟩ | ⟨place, missing⟩)
    · refine ⟨_, settingsAt_iff.mp place, ?_⟩
      simp only [Settings.load, Tree.isThere_of_readText read, read, parsed, if_true]
      rfl
    · exact ⟨_, settingsAt_iff.mp place, by rw [Settings.load, missing]; rfl⟩
  · rintro ⟨path, hpath, h⟩
    have place := settingsAt_iff.mpr hpath
    unfold Settings.load at h
    split at h
    · split at h
      · cases h
      · next text read => exact .file place read (mapError_eq_ok_iff.mp h)
    · next missing =>
        obtain rfl := Except.ok.inj h
        exact .missing place (by simpa using missing)

/-- Settings are loaded from one path, so that the failure to load them is the one of this path. -/
theorem fails_settings_iff : Fails e files a .settings failure ↔
    ∃ path, settingsPath e a = .ok path ∧
      (Settings.load files path).mapError .settings = .error failure := by
  constructor
  · rintro (_ | ⟨place, there, unread⟩ | ⟨place, read, refused⟩)
    · refine ⟨_, settingsAt_iff.mp place, ?_⟩
      rw [Settings.load, if_pos there, unread]
      rfl
    · refine ⟨_, settingsAt_iff.mp place, ?_⟩
      simp only [Settings.load, Tree.isThere_of_readText read, read, refused, if_true]
      rfl
  · rintro ⟨path, hpath, h⟩
    have place := settingsAt_iff.mpr hpath
    obtain ⟨reason, hload, rfl⟩ := mapError_eq_error_iff.mp h
    unfold Settings.load at hload
    split at hload
    · next there =>
        split at hload
        · next unread =>
            obtain rfl := Except.error.inj hload
            exact .unreadable place there unread
        · next read =>
            obtain ⟨problem, refused, rfl⟩ := mapError_eq_error_iff.mp hload
            exact .malformed place read refused
    · cases hload

theorem fails_options_iff : Fails e files a .options failure ↔
    ∃ s, Loaded e files a s ∧ (Options.combine a s).mapError .options = .error failure := by
  constructor
  · rintro (_ | _ | _ | ⟨loaded, refused⟩)
    exact ⟨_, loaded, mapError_eq_error_iff.mpr ⟨_, refused, rfl⟩⟩
  · rintro ⟨s, loaded, h⟩
    obtain ⟨reason, refused, rfl⟩ := mapError_eq_error_iff.mp h
    exact .unresolved loaded refused

/-- Only one thing can come on screen first. -/
theorem opens_iff {opening : Opening} :
    Options.Opens a opening ↔ Options.chooseOpening a = opening := by
  constructor
  · intro h
    have hsilent : (∀ text ∈ a.prompt, Text.blank text) →
        a.prompt.filter (fun text => !Text.blank text) = none := by
      intro silent
      rw [Option.filter_eq_none_iff]
      simpa using silent
    cases h with
    | prompt given visible =>
        rw [Options.chooseOpening, given, Option.filter_some_pos (by simp [visible])]
    | file silent given => rw [Options.chooseOpening, hsilent silent, given]
    | initial silent lacking => rw [Options.chooseOpening, hsilent silent, lacking]
  · rintro rfl
    exact Options.opens_choose a

/-- A source from a file is the only one that can fail to be there. -/
theorem fails_source_iff : Fails e files a .source failure ↔
    sourceText files (Options.chooseOpening a) = .error failure := by
  constructor
  · rintro (_ | _ | _ | _ | ⟨opens, unread⟩)
    rw [opens_iff.mp opens, sourceText, unread]
    rfl
  · intro h
    unfold sourceText at h
    split at h
    · next opens =>
        obtain ⟨reason, unread, rfl⟩ := mapError_eq_error_iff.mp (map_eq_error_iff.mp h)
        exact .sourceless (opens_iff.mpr opens) unread
    · cases h
    · cases h

/-! ## Plans -/

theorem options_eq_ok_iff {o : Options} : options e files a = .ok o ↔
    ∃ s, Loaded e files a s ∧ Options.combine a s = .ok o := by
  unfold options
  simp only [bind_eq_ok_iff, mapError_eq_ok_iff, loaded_iff]
  constructor
  · rintro ⟨path, hpath, s, hload, hcombine⟩
    exact ⟨s, ⟨path, hpath, hload⟩, hcombine⟩
  · rintro ⟨s, ⟨path, hpath, hload⟩, hcombine⟩
    exact ⟨path, hpath, s, hload, hcombine⟩

/-- Options show first what the arguments ask for. -/
theorem opening_of_options {o : Options} (h : options e files a = .ok o) :
    o.opening = Options.chooseOpening a := by
  obtain ⟨s, -, hcombine⟩ := options_eq_ok_iff.mp h
  exact (opens_iff.mp (Options.settled_of_combine hcombine).opening).symm

/-- The options ask for a picture where the command line does. -/
theorem exportTo_of_options {o : Options} (h : options e files a = .ok o) :
    o.exportTo = a.exportTo := by
  obtain ⟨s, -, hcombine⟩ := options_eq_ok_iff.mp h
  exact (Options.settled_of_combine hcombine).exportTo

/-- There are no options exactly when one of the first three checks fails.  These cannot fail
together, since each takes what the one before it looks at for granted. -/
theorem options_eq_error_iff : options e files a = .error failure ↔
    Fails e files a .place failure ∨ Fails e files a .settings failure ∨
      Fails e files a .options failure := by
  unfold options
  simp only [bind_eq_error_iff, mapError_eq_ok_iff, fails_place_iff, fails_settings_iff,
    fails_options_iff, loaded_iff]
  constructor
  · rintro (hplace | ⟨path, hpath, hload | ⟨s, hload, hcombine⟩⟩)
    · exact .inl hplace
    · exact .inr (.inl ⟨path, hpath, hload⟩)
    · exact .inr (.inr ⟨s, ⟨path, hpath, hload⟩, hcombine⟩)
  · rintro (hplace | ⟨path, hpath, hload⟩ | ⟨s, ⟨path, hpath, hload⟩, hcombine⟩)
    · exact .inl hplace
    · exact .inr ⟨path, hpath, .inl hload⟩
    · exact .inr ⟨path, hpath, .inr ⟨s, hload, hcombine⟩⟩

/-- A check that fails before the source is looked at leaves no options. -/
theorem options_of_fails {c : Check} (hc : c ∈ Check.earlier .source)
    (h : Fails e files a c failure) : options e files a = .error failure := by
  rw [options_eq_error_iff]
  simp only [Check.earlier, List.mem_cons, List.not_mem_nil, or_false] at hc
  rcases hc with rfl | rfl | rfl
  · exact .inl h
  · exact .inr (.inl h)
  · exact .inr (.inr h)

/-- A check that takes earlier ones for granted fails first when it fails. -/
theorem Fails.first {c : Check} (hc : c ∈ Check.earlier .source) (h : Fails e files a c failure) :
    FailsFirst e files a c failure := by
  refine ⟨h, fun c' hc' failure' h' => ?_⟩
  cases c with
  | place => cases hc'
  | settings =>
      obtain ⟨path, hpath, -⟩ := fails_settings_iff.mp h
      obtain rfl := List.mem_singleton.mp hc'
      rw [fails_place_iff, hpath] at h'
      cases h'
  | options =>
      obtain ⟨s, hloaded, -⟩ := fails_options_iff.mp h
      obtain ⟨path, hpath, hload⟩ := loaded_iff.mp hloaded
      simp only [Check.earlier, List.mem_cons, List.not_mem_nil, or_false] at hc'
      rcases hc' with rfl | rfl
      · rw [fails_place_iff, hpath] at h'
        cases h'
      · obtain ⟨path', hpath', hfailed⟩ := fails_settings_iff.mp h'
        obtain rfl := Except.ok.inj (hpath.symm.trans hpath')
        rw [hload] at hfailed
        cases hfailed
  | source => simp [Check.earlier] at hc

/-- The source in a plan for a file is the text of the file. -/
theorem text_of_source {path : Path} {source : Option String}
    (h : sourceText files (.file path) = .ok source) :
    ∃ text, files.readText path = .ok text ∧ source = some text := by
  obtain ⟨text, hread, rfl⟩ := map_eq_ok_iff.mp h
  exact ⟨text, mapError_eq_ok_iff.mp hread, rfl⟩

/-- A plan is made of options and of the source that they name. -/
theorem plan_eq_ok_iff {p : Plan} : plan e files a = .ok p ↔
    options e files a = .ok p.options ∧ sourceText files p.options.opening = .ok p.source := by
  unfold plan
  simp only [bind_eq_ok_iff]
  constructor
  · rintro ⟨o, ho, source, hsource, hp⟩
    obtain rfl := Except.ok.inj hp
    exact ⟨ho, hsource⟩
  · rintro ⟨ho, hsource⟩
    exact ⟨_, ho, _, hsource, rfl⟩

/-- **There is no plan exactly when a check fails**, and the first that does is heard of.  Several
checks can fail at once; the order of `Check.earlier` is all that decides between them. -/
theorem plan_eq_error_iff :
    plan e files a = .error failure ↔ ∃ c, FailsFirst e files a c failure := by
  unfold plan
  constructor
  · intro h
    rcases bind_eq_error_iff.mp h with hoptions | ⟨o, ho, hplan⟩
    · rcases options_eq_error_iff.mp hoptions with hfails | hfails | hfails
      · exact ⟨.place, hfails.first (by decide)⟩
      · exact ⟨.settings, hfails.first (by decide)⟩
      · exact ⟨.options, hfails.first (by decide)⟩
    · have hsource : sourceText files o.opening = .error failure := by
        simpa [bind_eq_error_iff, pure, Except.pure] using hplan
      rw [opening_of_options ho] at hsource
      refine ⟨.source, fails_source_iff.mpr hsource, fun c hc failure' hfails => ?_⟩
      rw [options_of_fails hc hfails] at ho
      cases ho
  · rintro ⟨c, hfails, hpassed⟩
    rw [bind_eq_error_iff]
    rcases c.earlier_or_source with hc | rfl
    · exact .inl (options_of_fails hc hfails)
    · -- options that are not refused are there
      cases hoptions : options e files a with
      | error failure' =>
          rcases options_eq_error_iff.mp hoptions with h | h | h
          · exact absurd h (hpassed .place (by decide) failure')
          · exact absurd h (hpassed .settings (by decide) failure')
          · exact absurd h (hpassed .options (by decide) failure')
      | ok o =>
          refine .inr ⟨o, rfl, bind_eq_error_iff.mpr (.inl ?_)⟩
          rw [opening_of_options hoptions]
          exact fails_source_iff.mp hfails

/-- Where a check fails, one fails first. -/
theorem Fails.exists_first {c : Check} (h : Fails e files a c failure) :
    ∃ c' failure', FailsFirst e files a c' failure' := by
  cases hplan : plan e files a with
  | error failure' =>
      obtain ⟨c', hfirst⟩ := plan_eq_error_iff.mp hplan
      exact ⟨c', failure', hfirst⟩
  | ok p =>
      obtain ⟨hoptions, hsource⟩ := plan_eq_ok_iff.mp hplan
      rcases c.earlier_or_source with hc | rfl
      · exact ⟨c, failure, h.first hc⟩
      · rw [fails_source_iff, ← opening_of_options hoptions, hsource] at h
        cases h

/-- **There is a plan exactly when all checks pass.**  With the former, arguments either have a plan
or an error that one of the checks accounts for. -/
theorem exists_plan_iff :
    (∃ p, plan e files a = .ok p) ↔ ∀ c failure, ¬ Fails e files a c failure := by
  constructor
  · rintro ⟨p, hplan⟩ c failure h
    obtain ⟨c', failure', hfirst⟩ := h.exists_first
    rw [plan_eq_error_iff.mpr ⟨c', hfirst⟩] at hplan
    cases hplan
  · intro h
    cases hplan : plan e files a with
    | ok p => exact ⟨p, rfl⟩
    | error failure =>
        obtain ⟨c, hfirst⟩ := plan_eq_error_iff.mp hplan
        exact absurd hfirst.fails (h c failure)

/-- A command line with two faults, a timeout of zero and a source that is missing. -/
def hasty : Arguments where
  source := some (.ofText "a.frag")
  timeout := some 0
  config := some (.ofText "a.toml")

/-- Of two faults the one is heard of that is looked for first. -/
example : FailsFirst {} {} hasty .options (.options .zeroTimeout) ∧
    Fails {} {} hasty .source (.source (.ofText "a.frag") .notFound) := by
  have hloaded : Loaded {} {} hasty {} := .missing (.named rfl) rfl
  exact ⟨(Fails.unresolved hloaded rfl).first (by decide), .sourceless (.file nofun rfl) rfl⟩

end ShaderSketch.Viewer
