import ShaderSketch.Proofs.Complaints
import ShaderSketch.Proofs.Counting
import ShaderSketch.Proofs.Screen

/-!
# The source on screen

A panel says which source is on screen.  When nobody else draws on its canvas, that is the source
that was drawn for the last frame shown, however many drawings failed since.

## Main definitions

* `Panel.Turn`, `Panel.Turn.deed` — what is done with a panel, and what happens to its canvas
* `Panel.displayed?` — the source that comes on screen in a turn
* `Panel.Showing` — a panel and its canvas, with the sources that came on screen
* `Panel.fails` — whether a turn fails to draw, or ends a request without a source
* `Panel.Shift` — what a turn comes to: a source is drawn, or is not, or none was to be drawn

## Main results

* `Panel.shift_step` : every turn is one of the three
* `Panel.faithful_steps` : the panel, the canvas and the screen agree after every run
* `Panel.source_on_screen` : the source of the panel is on screen, and what fails leaves it there
-/

namespace ShaderSketch.Panel

open Surface Gl

variable {σ κ ℓ : Type}

/-! ## Turns -/

/-- What is done with a panel, or happens to its canvas: the buffer is given back, or the surface
changes. -/
inductive Turn (κ : Type)
  | setPrompt (prompt : String)
  | ask
  | receive (result : Except Service.Failure String)
  | displayInitial
  | display (source : String)
  | refresh
  | release
  | change (what : κ)

/-- What a turn does to the panel, with what becomes of its canvas. -/
def Turn.deed (w : World σ κ ℓ) (c : Canvas σ) : Turn κ → Deed σ
  | .setPrompt prompt => .setPrompt prompt
  | .ask => .ask
  | .receive result => .receive result
  | .displayInitial => .displayInitial
  | .display source => .display source
  | .refresh => .refresh
  | .release => .swap (c.release w.toSurface)
  | .change what => .swap (c.change w what)

/-- The source that comes on screen in a turn: one that was handed to the panel and was drawn. -/
def displayed? (s : Surface σ ℓ) (c : Canvas σ) : Turn κ → Option String
  | .receive (.ok source) | .display source => if draws s source c then some source else none
  | .displayInitial => if draws s Shader.initialSource c then some Shader.initialSource else none
  | .receive (.error _) | .setPrompt _ | .ask | .refresh | .release | .change _ => none

/-- Whether a turn fails to draw what it is to draw, or ends a request without a source. -/
def fails (s : Surface σ ℓ) (p : Panel) (c : Canvas σ) : Turn κ → Bool
  | .receive (.ok source) | .display source => !draws s source c
  | .displayInitial => !draws s Shader.initialSource c
  | .refresh => !draws s p.source c
  | .receive (.error _) => true
  | .setPrompt _ | .ask | .release | .change _ => false

/-- A panel and its canvas, with the sources that came on screen, the last one first.  The list is
kept beside the panel and is no part of it: it says what the panel should remember. -/
structure Showing (σ : Type) where
  panel : Panel
  canvas : Canvas σ
  displayed : List String := []

namespace Showing

/-- A new panel with a canvas. -/
def onto (prompt : String) (c : Canvas σ) : Showing σ := { panel := { prompt }, canvas := c }

/-- What there is after a turn. -/
def step (w : World σ κ ℓ) (r : Showing σ) (t : Turn κ) : Showing σ :=
  let (panel, canvas) := act w.toSurface r.panel r.canvas (t.deed w r.canvas)
  { panel, canvas, displayed := (displayed? w.toSurface r.canvas t).toList ++ r.displayed }

/-- What there is after turns. -/
def steps (w : World σ κ ℓ) (r : Showing σ) (turns : List (Turn κ)) : Showing σ :=
  turns.foldl (step w) r

end Showing

/-! ## What a turn comes to -/

/-- Displaying a source draws it; the source of the panel changes only if it was drawn. -/
theorem display_source (s : Surface σ ℓ) (source : String) (p : Panel) (c : Canvas σ) :
    (p.display s source c).2.2 = (c.draw s source).2 ∧
      (p.display s source c).2.1.source = if draws s source c then source else p.source := by
  unfold display draws
  rcases c.draw s source with ⟨_ | _, c'⟩
  · exact ⟨rfl, rfl⟩
  · exact ⟨rfl, rfl⟩

/-- Refreshing draws the source of the panel, and keeps it. -/
theorem refresh_source (s : Surface σ ℓ) (p : Panel) (c : Canvas σ) :
    (p.refresh s c).2 = (c.draw s p.source).2 ∧ (p.refresh s c).1.source = p.source := by
  unfold refresh
  rcases c.draw s p.source with ⟨_ | _, c'⟩
  · exact ⟨rfl, rfl⟩
  · refine ⟨rfl, ?_⟩
    dsimp only
    split <;> rfl

/-- What a turn comes to.  A source is drawn, which comes on screen then or is there already; or it
is not drawn; or the canvas is released or changed, if anything is done to it at all. -/
inductive Shift (w : World σ κ ℓ) (r r' : Showing σ) (t : Turn κ) : Prop
  | drawn (source : String) (draws : draws w.toSurface source r.canvas = true)
      (canvas : r'.canvas = (r.canvas.draw w.toSurface source).2)
      (source_eq : r'.panel.source = source)
      (displayed : r'.displayed = source :: r.displayed ∨
        source = r.panel.source ∧ r'.displayed = r.displayed)
      (succeeds : fails w.toSurface r.panel r.canvas t = false)
  | failed (source : String) (fails : draws w.toSurface source r.canvas = false)
      (canvas : r'.canvas = (r.canvas.draw w.toSurface source).2)
      (source_eq : r'.panel.source = r.panel.source) (displayed : r'.displayed = r.displayed)
  | untouched (canvas : r'.canvas = r.canvas) (source_eq : r'.panel.source = r.panel.source)
      (displayed : r'.displayed = r.displayed)
  | released (canvas : r'.canvas = r.canvas.release w.toSurface)
      (source_eq : r'.panel.source = r.panel.source) (displayed : r'.displayed = r.displayed)
      (succeeds : fails w.toSurface r.panel r.canvas t = false)
  | changed (what : κ) (canvas : r'.canvas = r.canvas.change w what)
      (source_eq : r'.panel.source = r.panel.source) (displayed : r'.displayed = r.displayed)
      (succeeds : fails w.toSurface r.panel r.canvas t = false)

/-- A source that is handed to the panel comes on screen if it is drawn, and nothing else changes
the source of the panel. -/
theorem shift_display (w : World σ κ ℓ) {r r' : Showing σ} {t : Turn κ} {source : String}
    {p : Panel} (hpanel : r'.panel = (p.display w.toSurface source r.canvas).2.1)
    (hcanvas : r'.canvas = (p.display w.toSurface source r.canvas).2.2)
    (hsource : p.source = r.panel.source)
    (hdisplayed : r'.displayed =
      (if draws w.toSurface source r.canvas then some source else none).toList ++ r.displayed)
    (hfails : fails w.toSurface r.panel r.canvas t = !draws w.toSurface source r.canvas) :
    Shift w r r' t := by
  obtain ⟨hdraw, hkeeps⟩ := display_source w.toSurface source p r.canvas
  rw [hdraw] at hcanvas
  rw [← hpanel] at hkeeps
  cases hdraws : draws w.toSurface source r.canvas with
  | true =>
      rw [hdraws] at hkeeps hdisplayed hfails
      exact .drawn source hdraws hcanvas hkeeps (.inl hdisplayed) hfails
  | false =>
      rw [hdraws] at hkeeps hdisplayed
      exact .failed source hdraws hcanvas (hkeeps.trans hsource) hdisplayed

/-- **Every turn draws a source, fails to, or draws none.**  The invariants below look at a turn by
this alone, and a new kind of turn would be one more case here and none there. -/
theorem shift_step (w : World σ κ ℓ) (r : Showing σ) (t : Turn κ) : Shift w r (r.step w t) t := by
  cases t with
  | setPrompt prompt => exact .untouched rfl rfl rfl
  | ask =>
      refine .untouched rfl ?_ rfl
      change r.panel.ask.2.source = r.panel.source
      unfold ask
      split <;> rfl
  | receive result =>
      cases result with
      | ok source => exact shift_display w rfl rfl rfl rfl rfl
      | error e =>
          refine .untouched rfl ?_ rfl
          change (r.panel.receive w.toSurface (.error e) r.canvas).1.source = r.panel.source
          unfold receive
          dsimp only
          split <;> rfl
  | displayInitial => exact shift_display w rfl rfl rfl rfl rfl
  | display source => exact shift_display w rfl rfl rfl rfl rfl
  | refresh =>
      obtain ⟨hcanvas, hsource⟩ := refresh_source w.toSurface r.panel r.canvas
      cases hdraws : draws w.toSurface r.panel.source r.canvas with
      | true =>
          exact .drawn r.panel.source hdraws hcanvas hsource (.inr ⟨rfl, rfl⟩)
            (by rw [fails, hdraws]; rfl)
      | false => exact .failed r.panel.source hdraws hcanvas hsource rfl
  | release => exact .released rfl rfl rfl rfl
  | change what => exact .changed what rfl rfl rfl rfl

/-! ## Canvases -/

theorem draws_eq_isOk (s : Surface σ ℓ) (source : String) (c : Canvas σ) :
    draws s source c = (c.attempt s source false).1.isOk := by
  unfold draws Canvas.draw
  rcases c.attempt s source false with ⟨_ | _, c'⟩ <;> rfl

/-- All that is done to the canvas of a panel can be done to a canvas by itself. -/
theorem exists_life (w : World σ κ ℓ) (r : Showing σ) (turns : List (Turn κ)) :
    ∃ life, (r.steps w turns).canvas = r.canvas.steps w life := by
  induction turns generalizing r with
  | nil => exact ⟨[], rfl⟩
  | cons t turns ih =>
      have hstep : ∃ now, (r.step w t).canvas = r.canvas.steps w now := by
        cases shift_step w r t with
        | drawn source _ canvas => exact ⟨[.draw source], canvas⟩
        | failed source _ canvas => exact ⟨[.draw source], canvas⟩
        | untouched canvas => exact ⟨[], canvas⟩
        | released canvas => exact ⟨[.release], canvas⟩
        | changed what canvas => exact ⟨[.change what], canvas⟩
      obtain ⟨now, hnow⟩ := hstep
      obtain ⟨life, hlife⟩ := ih (r.step w t)
      refine ⟨now ++ life, ?_⟩
      rw [Canvas.steps, List.foldl_append]
      exact hlife.trans (congrArg (Canvas.steps w · life) hnow)

/-! ## The invariant -/

/-- The source of the panel is the last one that came on screen, the canvas counts the frames that
were shown, and the text on screen is that of the source.  The last of these is said only of drivers
that give no live handle out: if a new program had the number of one that is still there, it could
not be told from the log which of them the screen shows. -/
structure Faithful (r : Showing (Logged σ ℓ)) : Prop where
  source : r.panel.source = r.displayed.headD Shader.initialSource
  frames : r.canvas.frames = r.canvas.shown
  screen : Ledger.Fresh {} r.canvas.surface.log → r.canvas.screen =
    if r.canvas.frames = 0 then none else some (Shader.prepare r.panel.source)

/-- When nothing comes on screen and the source stays, they still agree. -/
theorem Faithful.of_still {r r' : Showing (Logged σ ℓ)} (h : Faithful r)
    (still : Canvas.Still r.canvas r'.canvas) (source_eq : r'.panel.source = r.panel.source)
    (displayed : r'.displayed = r.displayed) : Faithful r' := by
  refine ⟨?_, ?_, fun fresh => ?_⟩
  · rw [source_eq, displayed]
    exact h.source
  · rw [still.frames, still.shown]
    exact h.frames
  · rw [still.screen, still.frames, source_eq]
    exact h.screen (still.fresh fresh)

theorem still_draw {w : World σ κ ℓ} {source : String} {c : Canvas (Logged σ ℓ)}
    (h : draws w.logged.toSurface source c = false) :
    Canvas.Still c (c.draw w.logged.toSurface source).2 := by
  rw [draws_eq_isOk] at h
  exact Canvas.still_attempt h

/-- When a source was drawn, all three say something new; in all other cases nothing came on screen.
-/
theorem faithful_step (w : World σ κ ℓ) {r : Showing (Logged σ ℓ)} (h : Faithful r)
    (t : Turn κ) : Faithful (r.step w.logged t) := by
  cases shift_step w.logged r t with
  | drawn source draws canvas source_eq displayed =>
      rw [draws_eq_isOk] at draws
      obtain ⟨hframes, hshown, hscreen⟩ := Canvas.screen_attempt (s := w.toSurface) draws
      refine ⟨?_, ?_, fun fresh => ?_⟩
      · rw [source_eq]
        obtain hnew | ⟨hsame, hkept⟩ := displayed
        · rw [hnew]
          rfl
        · rw [hkept, hsame]
          exact h.source
      · rw [canvas]
        exact hframes.trans ((congrArg (· + 1) h.frames).trans hshown.symm)
      · rw [canvas] at fresh ⊢
        rw [source_eq]
        refine (hscreen fresh).trans (if_neg ?_).symm
        exact fun hzero => Nat.succ_ne_zero _ (hframes.symm.trans hzero)
  | failed source fails canvas source_eq displayed =>
      exact h.of_still (canvas ▸ still_draw fails) source_eq displayed
  | untouched canvas source_eq displayed =>
      exact h.of_still (canvas ▸ .refl _) source_eq displayed
  | released canvas source_eq displayed =>
      exact h.of_still (canvas ▸ Canvas.still_release w.toSurface _) source_eq displayed
  | changed what canvas source_eq displayed =>
      refine h.of_still ?_ source_eq displayed
      rw [canvas]
      exact ⟨rfl, [], (List.append_nil _).symm, rfl⟩

/-- **The panel, the canvas and the screen agree after every run.**  A new canvas is faithful, since
nothing was shown on it (`faithful_onto`); this is why the runs below start with one. -/
theorem faithful_steps (w : World σ κ ℓ) {r : Showing (Logged σ ℓ)} (h : Faithful r)
    (turns : List (Turn κ)) : Faithful (r.steps w.logged turns) := by
  induction turns generalizing r with
  | nil => exact h
  | cons t turns ih => exact ih (faithful_step w h t)

theorem faithful_onto (prompt : String) (x : σ) :
    Faithful (ℓ := ℓ) (Showing.onto prompt (Canvas.onto x)) :=
  ⟨rfl, rfl, fun _ => rfl⟩

/-! ## Turns that fail -/

/-- What a turn leaves as it is that fails.  Nothing is assumed of handles here: the screen need not
be known to be known to stay. -/
structure Unmoved (r r' : Showing (Logged σ ℓ)) : Prop where
  source : r'.panel.source = r.panel.source
  displayed : r'.displayed = r.displayed
  frames : r'.canvas.frames = r.canvas.frames
  shown : r'.canvas.shown = r.canvas.shown
  screen : r'.canvas.screen = r.canvas.screen

theorem Unmoved.of_still {r r' : Showing (Logged σ ℓ)} (still : Canvas.Still r.canvas r'.canvas)
    (source_eq : r'.panel.source = r.panel.source) (displayed : r'.displayed = r.displayed) :
    Unmoved r r' :=
  ⟨source_eq, displayed, still.frames, still.shown, still.screen⟩

/-- **A turn that fails leaves the source, the count and the screen.** -/
theorem unmoved_step {w : World σ κ ℓ} {r : Showing (Logged σ ℓ)} {t : Turn κ}
    (h : fails w.logged.toSurface r.panel r.canvas t) : Unmoved r (r.step w.logged t) := by
  cases shift_step w.logged r t with
  | failed source fails canvas source_eq displayed =>
      exact .of_still (canvas ▸ still_draw fails) source_eq displayed
  | untouched canvas source_eq displayed =>
      exact .of_still (canvas ▸ .refl _) source_eq displayed
  -- in these cases nothing failed
  | drawn _ _ _ _ _ succeeds => exact absurd h (by rw [succeeds]; exact Bool.false_ne_true)
  | released _ _ _ succeeds => exact absurd h (by rw [succeeds]; exact Bool.false_ne_true)
  | changed _ _ _ _ succeeds => exact absurd h (by rw [succeeds]; exact Bool.false_ne_true)

/-! ## The surface in memory -/

/-- The surface in memory counts the frames that it shows. -/
theorem shown_answer (request : Request String) (x : Logged MemorySurface.Directed String)
    {start : Nat} (h : x.state.surface.shown = start + x.log.countP Exchange.shows) :
    let x' := (MemorySurface.world.logged.answer request x).2
    x'.state.surface.shown = start + x'.log.countP Exchange.shows := by
  intro x'
  have hlog : x'.log = x.log ++ [⟨request, (MemorySurface.world.answer request x.state).1⟩] := rfl
  rw [hlog, List.countP_append, ← Nat.add_assoc, ← h]
  cases request with
  | gl call => rfl
  | present =>
      change x.state.surface.present.2.shown = _ +
        List.countP Exchange.shows [⟨.present, x.state.surface.present.1⟩]
      unfold MemorySurface.present
      split <;> rfl

/-- The count of the surface and that of the canvas are of the same exchanges. -/
theorem shown_steps (d : MemorySurface.Directed) (prompt : String)
    (turns : List (Turn MemorySurface.Change)) :
    let c := ((Showing.onto prompt (Canvas.onto d)).steps MemorySurface.world.logged turns).canvas
    c.surface.state.surface.shown = d.surface.shown + c.shown := by
  obtain ⟨life, hlife⟩ := exists_life MemorySurface.world.logged
    (Showing.onto prompt (Canvas.onto d)) turns
  rw [hlife]
  refine Canvas.steps_surface_induction
    (P := fun x => x.state.surface.shown = d.surface.shown + x.log.countP Exchange.shows)
    (fun request x h => shown_answer request x h) ?_ ?_ life
  · intro what x h
    cases what <;> exact h
  · exact (Nat.add_zero _).symm

/-- A driver that counts gives no live handle out, whatever is done with the panel.  That is all
that the condition on the screen asks for, so that it goes away for every such driver. -/
theorem fresh_steps {w : World σ κ ℓ} {issued : σ → Nat} (h : w.Counts issued) (x : σ)
    (prompt : String) (turns : List (Turn κ)) :
    let c := ((Showing.onto prompt (Canvas.onto x)).steps w.logged turns).canvas
    Ledger.Fresh {} c.surface.log := by
  obtain ⟨life, hlife⟩ := exists_life w.logged (Showing.onto prompt (Canvas.onto x)) turns
  rw [hlife]
  exact h.fresh x life

/-! ## The source on screen -/

/-- **The source of the panel is on screen.**  After any turns on a new panel, whatever the driver
answers and whatever happens to the surface, the source of the panel is the one that came on screen
last, or the initial one, and its text is on screen if any frame was shown.  A turn that fails
leaves the source, the count of frames and the screen as they are, and a request that ends is waited
for no more.  In memory no driver gives a live handle out, and the surface counts those frames. -/
theorem source_on_screen :
    (∀ (σ κ ℓ : Type) (w : World σ κ ℓ) (x : σ) (prompt : String) (turns : List (Turn κ)),
      let r := (Showing.onto prompt (Canvas.onto x)).steps w.logged turns
      r.panel.source = r.displayed.headD Shader.initialSource ∧
      r.canvas.frames = r.canvas.shown ∧
      (Ledger.Fresh {} r.canvas.surface.log → r.canvas.screen =
        if r.canvas.frames = 0 then none else some (Shader.prepare r.panel.source)) ∧
      (∀ t, fails w.logged.toSurface r.panel r.canvas t → Unmoved r (r.step w.logged t)) ∧
      ∀ result, (r.step w.logged (.receive result)).panel.waiting = false) ∧
    ∀ (d : MemorySurface.Directed) (prompt : String) (turns : List (Turn MemorySurface.Change)),
      let r := (Showing.onto prompt (Canvas.onto d)).steps MemorySurface.world.logged turns
      (r.canvas.screen =
        if r.canvas.frames = 0 then none else some (Shader.prepare r.panel.source)) ∧
      r.canvas.surface.state.surface.shown = d.surface.shown + r.canvas.frames := by
  constructor
  · intro σ κ ℓ w x prompt turns r
    have hfaithful : Faithful r := faithful_steps w (faithful_onto prompt x) turns
    exact ⟨hfaithful.source, hfaithful.frames, hfaithful.screen, fun t => unmoved_step,
      fun result => waiting_receive w.logged.toSurface result r.panel r.canvas⟩
  · intro d prompt turns r
    have hfaithful : Faithful r :=
      faithful_steps MemorySurface.world (faithful_onto prompt d) turns
    refine ⟨hfaithful.screen (fresh_steps MemorySurface.counts d prompt turns), ?_⟩
    rw [hfaithful.frames]
    exact shown_steps d prompt turns

/-- A source comes on screen, another does not compile, and the next frame is going to fail. -/
def stumbling : List (Turn MemorySurface.Change) :=
  [.display "void main() {}", .receive (.ok "void main("), .change (.spoilNextFrame "lost")]

theorem source_on_screen_stumbling :
    let r := (Showing.onto "waves" (Canvas.onto MemorySurface.small)).steps
      MemorySurface.world.logged stumbling
    let r' := r.step MemorySurface.world.logged .refresh
    Ledger.Fresh {} r.canvas.surface.log ∧
      r.canvas.screen = some (Shader.prepare "void main() {}") ∧
      r'.panel.complaint.isSome ∧ r'.canvas.screen = r.canvas.screen := by
  have hfresh := fresh_steps MemorySurface.counts MemorySurface.small "waves" stumbling
  obtain ⟨-, -, hscreen, hunmoved, -⟩ :=
    source_on_screen.1 _ _ _ MemorySurface.world MemorySurface.small "waves" stumbling
  -- the run is evaluated for what the theorem asks of it, and for nothing more
  obtain ⟨r, hr⟩ : ∃ r, r = (Showing.onto "waves" (Canvas.onto MemorySurface.small)).steps
    MemorySurface.world.logged stumbling := ⟨_, rfl⟩
  have hrun : fails MemorySurface.world.logged.toSurface r.panel r.canvas
        (.refresh : Turn MemorySurface.Change) = true ∧
      (r.step MemorySurface.world.logged .refresh).panel.complaint.isSome = true ∧
      r.canvas.frames = 1 ∧ r.panel.source = "void main() {}" := by
    rw [hr]
    decide +kernel
  rw [← hr] at hfresh hscreen hunmoved ⊢
  obtain ⟨hfails, hcomplaint, hframes, hsource⟩ := hrun
  refine ⟨hfresh, ?_, hcomplaint, (hunmoved .refresh hfails).screen⟩
  rw [hscreen hfresh, hframes, hsource]
  rfl

end ShaderSketch.Panel
