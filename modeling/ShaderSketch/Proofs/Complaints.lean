import Mathlib.Tactic.Tauto
import ShaderSketch.Canvas.MemorySurface
import ShaderSketch.Viewer.Panel

/-!
# Who wrote the complaint

A panel has one complaint and one flag that says whether the complaint is a refresh's.  This module
follows the writers of complaints beside the panel, and finds out when the flag is right.

## Main definitions

* `Panel.Deed`, `Panel.act` — what is done with a panel
* `Panel.Writer`, `Panel.writer` — who writes a complaint
* `Panel.Record` — a panel with the writers of its complaints, since there was none
* `Panel.Masked` — a request's complaint is written over a refresh's

## Main results

* `Panel.told_steps` : the flag is the flag of the last writer other than a request
* `Panel.Told.flag_right_iff` : the flag is wrong when a request's complaint masks a refresh's, and
  then only
* `Panel.refresh_takes_back` : a refresh takes back the complaints of refreshes and those that mask
  them, and no others

## Design notes

The canvas may be another one before every deed, so that nothing is assumed about what happens to it
in between, and a drawing may succeed or fail at any time.
-/

namespace ShaderSketch.Panel

variable {σ ℓ : Type}

/-! ## Deeds and writers -/

/-- What is done with a panel, or with its canvas behind its back. -/
inductive Deed (σ : Type)
  | setPrompt (prompt : String)
  | ask
  | receive (result : Except Service.Failure String)
  | displayInitial
  | display (source : String)
  | refresh
  | swap (canvas : Canvas σ)

/-- Panel and canvas after a deed. -/
def act (s : Surface σ ℓ) (p : Panel) (c : Canvas σ) : Deed σ → Panel × Canvas σ
  | .setPrompt prompt => (p.withPrompt prompt, c)
  | .ask => (p.ask.2, c)
  | .receive result => p.receive s result c
  | .displayInitial => (p.displayInitial s c).2
  | .display source => (p.display s source c).2
  | .refresh => p.refresh s c
  | .swap canvas => (p, canvas)

/-- Who can write a complaint: a refresh, a request, or a source that comes on screen. -/
inductive Writer
  | refresh
  | request
  | display
  deriving Repr, DecidableEq

/-- Whether a source is drawn. -/
def draws (s : Surface σ ℓ) (source : String) (c : Canvas σ) : Bool := (c.draw s source).1.isOk

/-- Who writes a complaint in a deed: a refresh or a source that is not drawn, or a request that
failed and was not given up. -/
def writer (s : Surface σ ℓ) (p : Panel) (c : Canvas σ) : Deed σ → Option Writer
  | .refresh => if draws s p.source c then none else some .refresh
  | .receive (.error e) => if e.isGivenUp then none else some .request
  | .receive (.ok source) | .display source => if draws s source c then none else some .display
  | .displayInitial => if draws s Shader.initialSource c then none else some .display
  | .setPrompt _ | .ask | .swap _ => none

/-- A panel and its canvas, with the writers of its complaints since there was none, the last one
first.  The writers are kept beside the panel because its flag is one bit, and several complaints
may have been written by the time it is looked at. -/
structure Record (σ : Type) where
  panel : Panel
  canvas : Canvas σ
  writers : List Writer := []

namespace Record

/-- The record after a deed. -/
def step (s : Surface σ ℓ) (r : Record σ) (d : Deed σ) : Record σ :=
  let (panel, canvas) := act s r.panel r.canvas d
  { panel, canvas
    writers := match writer s r.panel r.canvas d with
      | some w => w :: r.writers
      | none => if panel.complaint.isSome then r.writers else [] }

/-- The record after deeds. -/
def steps (s : Surface σ ℓ) (r : Record σ) (deeds : List (Deed σ)) : Record σ :=
  deeds.foldl (step s) r

/-- Who wrote the complaint. -/
def origin (r : Record σ) : Option Writer := r.writers.head?

/-- A request's complaint is written over a refresh's, if not directly then over other requests'. -/
def Masked (r : Record σ) : Prop :=
  r.origin = some .request ∧ r.writers.find? (· ≠ .request) = some .refresh

instance (r : Record σ) : Decidable r.Masked := inferInstanceAs (Decidable (_ ∧ _))

end Record

/-! ## What deeds do to the complaint -/

/-- What a panel says after a deed, by who wrote in it.  This is the inversion of a deed.  All that
a panel does with its complaint is in these cases. -/
inductive Effect (p p' : Panel) : Option Writer → Prop
  | wrote (w : Writer) (complaint : p'.complaint.isSome)
      (flag : p'.fromRefresh = match w with
        | .refresh => true
        | .request => p.fromRefresh
        | .display => false) : Effect p p' (some w)
  | cleared (complaint : p'.complaint = none) (flag : p'.fromRefresh = false) : Effect p p' none
  | kept (complaint : p'.complaint = p.complaint) (flag : p'.fromRefresh = p.fromRefresh) :
      Effect p p' none

theorem effect_display (s : Surface σ ℓ) (source : String) (p p' : Panel) (c : Canvas σ) :
    Effect p' (p.display s source c).2.1 (if draws s source c then none else some .display) := by
  unfold display draws
  rcases c.draw s source with ⟨_ | _, c'⟩
  · exact .wrote .display rfl rfl
  · exact .cleared rfl rfl

theorem effect_refresh (s : Surface σ ℓ) (p : Panel) (c : Canvas σ) :
    Effect p (p.refresh s c).1 (if draws s p.source c then none else some .refresh) := by
  unfold refresh draws
  rcases c.draw s p.source with ⟨_ | _, c'⟩
  · exact .wrote .refresh rfl rfl
  · dsimp only
    split
    · exact .cleared rfl rfl
    · exact .kept rfl rfl

/-- Every deed writes, clears or keeps the complaint, and the flag goes with it, except that a
request leaves the flag as it was. -/
theorem effect_act (s : Surface σ ℓ) (p : Panel) (c : Canvas σ) (d : Deed σ) :
    Effect p (act s p c d).1 (writer s p c d) := by
  cases d with
  | setPrompt prompt => exact .kept rfl rfl
  | ask =>
      simp only [act, writer, ask]
      split
      · exact .cleared rfl rfl
      · exact .kept rfl rfl
  | receive result =>
      cases result with
      | error e =>
          simp only [act, writer, receive]
          split
          · exact .kept rfl rfl
          · exact .wrote .request rfl rfl
      | ok source => exact effect_display s source _ p c
  | displayInitial => exact effect_display s _ p p c
  | display source => exact effect_display s source p p c
  | refresh => exact effect_refresh s p c
  | swap canvas => exact .kept rfl rfl

/-! ## The invariant -/

/-- There is a complaint as long as somebody wrote it, and the flag is that of the last writer other
than a request.  This is what a run keeps.  The second half is what the flag says in fact, and it
differs from what the flag is for where a request wrote after a refresh: the request does not touch
it. -/
structure Told (r : Record σ) : Prop where
  complaint : r.panel.complaint.isSome ↔ r.writers ≠ []
  flag : r.panel.fromRefresh = true ↔ r.writers.find? (· ≠ .request) = some .refresh

/-- Each deed changes what is on record and what the panel shows by the same rule; they are gone
through one by one. -/
theorem told_step (s : Surface σ ℓ) {r : Record σ} (h : Told r) (d : Deed σ) :
    Told (r.step s d) := by
  have heffect := effect_act s r.panel r.canvas d
  unfold Record.step
  dsimp only
  generalize writer s r.panel r.canvas d = w at heffect ⊢
  cases heffect with
  | wrote w complaint flag =>
      refine ⟨by simp [complaint], ?_⟩
      rw [flag]
      cases w with
      | refresh => simp
      -- the request is passed over, and the flag stays with who wrote before
      | request => simpa using h.flag
      | display => simp
  | cleared complaint flag => exact ⟨by simp [complaint], by simp [complaint, flag]⟩
  | kept complaint flag =>
      -- without a complaint nobody is on record before either
      have hwriters : (if r.panel.complaint.isSome then r.writers else []) = r.writers := by
        have := h.complaint
        grind
      refine ⟨?_, ?_⟩
      · simp only [complaint, hwriters]
        exact h.complaint
      · simp only [complaint, flag, hwriters]
        exact h.flag

/-- The record of a panel that was just made. -/
def Record.onto (prompt : String) (c : Canvas σ) : Record σ := { panel := { prompt }, canvas := c }

theorem told_steps (s : Surface σ ℓ) {r : Record σ} (h : Told r) (deeds : List (Deed σ)) :
    Told (r.steps s deeds) := by
  induction deeds generalizing r with
  | nil => exact h
  | cons d deeds ih => exact ih (told_step s h d)

theorem told_onto (prompt : String) (c : Canvas σ) : Told (Record.onto prompt c) :=
  ⟨by simp [Record.onto], by simp [Record.onto]⟩

/-! ## When the flag is right -/

theorem Told.isSome_origin {r : Record σ} (h : Told r) :
    r.panel.complaint.isSome ↔ r.origin.isSome := by
  rw [h.complaint, Record.origin]
  cases r.writers <;> simp

/-- The flag is up when a refresh wrote the complaint, and when its complaint is masked. -/
theorem Told.flag_iff {r : Record σ} (h : Told r) :
    r.panel.fromRefresh = true ↔ r.origin = some .refresh ∨ r.Masked := by
  rw [h.flag, Record.Masked, Record.origin]
  cases r.writers with
  | nil => simp
  | cons w writers => cases w <;> simp

/-- The flag is right about whether a refresh wrote the complaint exactly when no complaint of a
request masks one of a refresh. -/
theorem Told.flag_right_iff {r : Record σ} (h : Told r) :
    (r.panel.fromRefresh = true ↔ r.origin = some .refresh) ↔ ¬ r.Masked := by
  rw [h.flag_iff]
  have hmasked : r.Masked → r.origin ≠ some .refresh := by
    rintro ⟨horigin, -⟩
    simp [horigin]
  tauto

/-- A refresh that succeeds takes the complaint back if the flag is up, and else does nothing. -/
theorem refresh_of_draws (s : Surface σ ℓ) {p : Panel} {c : Canvas σ} (h : draws s p.source c) :
    (p.refresh s c).1 =
      if p.fromRefresh then { p with complaint := none, fromRefresh := false } else p := by
  unfold draws at h
  unfold refresh
  rcases hdraw : c.draw s p.source with ⟨_ | _, c'⟩
  · rw [hdraw] at h
    cases h
  · rfl

/-! ## What survives -/

/-- Whether a deed takes the complaint away or writes another one, apart from a refresh that
succeeds. -/
def replaces (s : Surface σ ℓ) (p : Panel) (c : Canvas σ) : Deed σ → Bool
  | .ask => p.mayAsk
  | .receive (.error e) => !e.isGivenUp
  | .receive (.ok _) | .display _ | .displayInitial => true
  | .refresh => !draws s p.source c
  | .setPrompt _ | .swap _ => false

/-- None of the deeds replaces the complaint when its turn comes. -/
def Spares (s : Surface σ ℓ) : Record σ → List (Deed σ) → Prop
  | _, [] => True
  | r, d :: deeds => replaces s r.panel r.canvas d = false ∧ Spares s (r.step s d) deeds

/-- A complaint without the flag is kept by every deed that does not replace it. -/
theorem kept_step (s : Surface σ ℓ) {r : Record σ} {d : Deed σ}
    (hflag : r.panel.fromRefresh = false) (h : replaces s r.panel r.canvas d = false) :
    (r.step s d).panel.complaint = r.panel.complaint ∧ (r.step s d).panel.fromRefresh = false := by
  cases d with
  | setPrompt prompt => exact ⟨rfl, hflag⟩
  | ask =>
      have hidle : r.panel.mayAsk = false := h
      simp [Record.step, act, ask, hidle, hflag]
  | receive result =>
      cases result with
      | error e =>
          have hgivenUp : e.isGivenUp = true := by simpa [replaces] using h
          simp [Record.step, act, receive, hgivenUp, hflag]
      | ok source => cases h
  | displayInitial => cases h
  | display source => cases h
  | refresh =>
      -- it succeeds, and without the flag it has nothing to take back
      have hdrawn : draws s r.panel.source r.canvas := by simpa [replaces] using h
      have hsame : (r.step s .refresh).panel = r.panel := by
        simp [Record.step, act, refresh_of_draws s hdrawn, hflag]
      exact ⟨congrArg complaint hsame, (congrArg fromRefresh hsame).trans hflag⟩
  | swap canvas => exact ⟨rfl, hflag⟩

theorem kept_steps (s : Surface σ ℓ) {r : Record σ} {deeds : List (Deed σ)}
    (hflag : r.panel.fromRefresh = false) (h : Spares s r deeds) :
    (r.steps s deeds).panel.complaint = r.panel.complaint := by
  induction deeds generalizing r with
  | nil => rfl
  | cons d deeds ih =>
      obtain ⟨hstep, hflag'⟩ := kept_step s hflag h.1
      exact (ih hflag' h.2).trans hstep

/-! ## The whole account -/

/-- **What a refresh takes back.**  Whatever is done with a panel and its canvas, the flag says
whether a refresh wrote the complaint, unless a request's complaint masks a refresh's, in which case
it is wrong.  A refresh that succeeds takes back the complaints of refreshes and those that mask
them; every other complaint stays until something replaces it.  Who wrote is known from the deeds
and not from the flag, so that the condition under which the flag is wrong is exact. -/
theorem refresh_takes_back (s : Surface σ ℓ) (prompt : String) (c : Canvas σ)
    (deeds : List (Deed σ)) :
    let r := (Record.onto prompt c).steps s deeds
    (r.panel.complaint.isSome ↔ r.origin.isSome) ∧
    ((r.panel.fromRefresh = true ↔ r.origin = some .refresh) ↔ ¬ r.Masked) ∧
    (∀ c', draws s r.panel.source c' → (r.panel.refresh s c').1.complaint =
      if r.origin = some .refresh ∨ r.Masked then none else r.panel.complaint) ∧
    (r.origin ≠ some .refresh → ¬ r.Masked → ∀ later, Spares s r later →
      (r.steps s later).panel.complaint = r.panel.complaint) := by
  intro r
  have told : Told r := told_steps s (told_onto prompt c) deeds
  refine ⟨told.isSome_origin, told.flag_right_iff, ?_, ?_⟩
  · intro c' hdrawn
    rw [refresh_of_draws s hdrawn]
    simp only [told.flag_iff]
    split <;> rfl
  · intro horigin hmasked later hspares
    have hflag : ¬ r.panel.fromRefresh = true := by
      rw [told.flag_iff]
      exact not_or.mpr ⟨horigin, hmasked⟩
    exact kept_steps s (Bool.eq_false_iff.mpr hflag) hspares

/-- A refresh fails while a request is running, then the request fails: the complaint is the
request's, and the next refresh takes it back. -/
theorem refresh_takes_back_request :
    let good : Canvas MemorySurface := { surface := { width := 2, height := 2 } }
    let bare : Canvas MemorySurface := { surface := { good.surface with hasContext := false } }
    let r := (Record.onto "waves" good).steps MemorySurface.plain
      [.display "void main() {}", .ask, .swap bare, .refresh, .receive (.error (.refused 500)),
        .swap good]
    r.origin = some .request ∧ r.panel.complaint = some requestFailed ∧
      r.panel.fromRefresh = true ∧
      (r.step MemorySurface.plain .refresh).panel.complaint = none := by
  decide +kernel

end ShaderSketch.Panel
