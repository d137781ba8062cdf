import Mathlib.Logic.Equiv.Basic
import ShaderSketch.Proofs.Accounts

/-!
# Attempts forget what was before

Two canvases on surfaces in memory, of one size and with the same failures to come, cannot be told
apart by what is drawn on them, whatever was done with each of them before.

## Main definitions

* `Gl.Event.renamed` — an event under other handles, and at another time
* `Canvas.Alike` — two canvases of one size and with the same failures to come
* `Canvas.Fills` — the events of filling a new buffer, where there was none
* `Canvas.Indistinct` — an operation on two canvases, which nothing tells apart

## Main results

* `Canvas.indistinct_attempt` : attempts on two canvases that are alike cannot be told apart
* `Canvas.nothing_leaks` : the same for any two lives of two canvases
* `Canvas.results_of_alike` : from then on all results are the same, if both canvases have the
  rectangle or neither has

## Design notes

Handles are numbered through, so a life shows in all of them.  That nothing else shows is why the
events of two attempts are compared under one permutation of all handles, for programs and buffers
at once.
-/

namespace ShaderSketch

open ShaderSketch.Frame Gl MemorySurface

/-! ## Other names -/

/-- An event under other handles, and at another time. -/
def Gl.Event.renamed (f : Equiv.Perm Handle) (time : Binary) : Event → Event
  | .useProgram program => .useProgram (program.map f)
  | .bindBuffer buffer => .bindBuffer (buffer.map f)
  | .uniformFloat name value => .uniformFloat name (if name = Shader.time then time else value)
  | e => e

namespace Frame

variable (view view' : Surface.View) (f : Equiv.Perm Handle)

/-- Traces name no handles, and no time. -/
theorem traces_renamed (time : Binary) (source : String)
    (result : Except Canvas.Failure Unit) :
    (traces source result).events.map (Event.renamed f time) = (traces source result).events := by
  unfold traces
  split <;> rfl

theorem inputEvents_renamed (hwidth : view.width = view'.width)
    (hheight : view.height = view'.height) (source : String) (program rectangle : Handle) :
    (inputEvents view source program rectangle).map (Event.renamed f view'.seconds) =
      inputEvents view' source (f program) (f rectangle) := by
  unfold inputEvents
  rw [hwidth, hheight]
  simp only [List.map_append]
  refine congrArg₂ (· ++ ·) (congrArg₂ (· ++ ·) rfl ?_) ?_
  · split <;> rfl
  · split <;> rfl

theorem paintEvents_renamed (hwidth : view.width = view'.width)
    (hheight : view.height = view'.height) (capture : Bool) (time : Binary) :
    (paintEvents view capture).map (Event.renamed f time) = paintEvents view' capture := by
  unfold paintEvents
  rw [hwidth, hheight]
  cases capture <;> rfl

end Frame

/-- Two handles can be renamed to any two others. -/
theorem exists_perm {p b p' b' : Handle} (hne : p ≠ b) (hne' : p' ≠ b') :
    ∃ f : Equiv.Perm Handle, f p = p' ∧ f b = b' := by
  have hfirst : Equiv.swap p p' b ≠ p' := fun heq =>
    hne ((Equiv.swap p p').injective ((Equiv.swap_apply_left p p').trans heq.symm))
  refine ⟨(Equiv.swap p p').trans (Equiv.swap (Equiv.swap p p' b) b'), ?_, ?_⟩
  · rw [Equiv.trans_apply, Equiv.swap_apply_left,
      Equiv.swap_apply_of_ne_of_ne hfirst.symm hne']
  · rw [Equiv.trans_apply, Equiv.swap_apply_left]

namespace Canvas

/-! ## Canvases that are alike -/

/-- Two canvases whose surfaces have one size and the same failures to come.  Where buffers are
barred, both canvases have the rectangle or neither has.  This is what a result depends on, and how
the canvases came by it is left open.  The last condition has two ways to hold: a canvas with the
rectangle asks for no buffer, so that bars on buffers stop only one that has none, and where there
are no bars this makes no difference. -/
structure Alike (c d : Canvas MemorySurface) : Prop where
  width : c.surface.width = d.surface.width
  height : c.surface.height = d.surface.height
  hasContext : c.surface.hasContext = d.surface.hasContext
  barredStage : c.surface.gl.barredStage = d.surface.gl.barredStage
  barsPrograms : c.surface.gl.barsPrograms = d.surface.gl.barsPrograms
  barsBuffers : c.surface.gl.barsBuffers = d.surface.gl.barsBuffers
  nextFailure : c.surface.nextFailure = d.surface.nextFailure
  rectangle : c.rectangle.isSome = d.rectangle.isSome ∨ c.surface.gl.barsBuffers = false

instance (c d : Canvas MemorySurface) : Decidable (Alike c d) :=
  decidable_of_iff
    (c.surface.width = d.surface.width ∧ c.surface.height = d.surface.height ∧
      c.surface.hasContext = d.surface.hasContext ∧
      c.surface.gl.barredStage = d.surface.gl.barredStage ∧
      c.surface.gl.barsPrograms = d.surface.gl.barsPrograms ∧
      c.surface.gl.barsBuffers = d.surface.gl.barsBuffers ∧
      c.surface.nextFailure = d.surface.nextFailure ∧
      (c.rectangle.isSome = d.rectangle.isSome ∨ c.surface.gl.barsBuffers = false))
    ⟨fun ⟨h₁, h₂, h₃, h₄, h₅, h₆, h₇, h₈⟩ => ⟨h₁, h₂, h₃, h₄, h₅, h₆, h₇, h₈⟩,
      fun ⟨h₁, h₂, h₃, h₄, h₅, h₆, h₇, h₈⟩ => ⟨h₁, h₂, h₃, h₄, h₅, h₆, h₇, h₈⟩⟩

/-- The events of filling a new buffer, on a canvas that has no rectangle, or no events at all. -/
def Fills (rectangle : Option Handle) (events : List Event) : Prop :=
  events = [] ∨ rectangle = none ∧
    ∃ new, events = [.bindBuffer (some new), .uploadBuffer Shader.cornerBytes.length]

/-- What was told to the contexts of two canvases is the same, up to handles, the time, and the
filling of a new buffer by a canvas that has no rectangle.  One permutation has to serve for the
whole of what was told, so that two handles which differ on one side differ on the other. -/
def Matching (c d : Canvas MemorySurface) (told told' : List Event) : Prop :=
  ∃ (f : Equiv.Perm Handle) (before after filling filling' : List Event),
    told = before ++ (filling ++ after) ∧
    told' = before.map (Event.renamed f d.surface.seconds) ++
      (filling' ++ after.map (Event.renamed f d.surface.seconds)) ∧
    Fills c.rectangle filling ∧ Fills d.rectangle filling' ∧
    (c.rectangle.isSome = d.rectangle.isSome →
      filling' = filling.map (Event.renamed f d.surface.seconds))

/-- An operation on two canvases, which nothing tells apart: it has the same result, as many frames
are counted and shown, the same texts are compiled, the contexts are told the same, and nothing but
the rectangle is left.  The last two parts are what the next operation asks for, so that this can be
said of one operation after another. -/
structure Indistinct {α : Type} (c d : Canvas MemorySurface)
    (x y : Except Failure α × Canvas MemorySurface) : Prop where
  result : x.1 = y.1
  frames : ∃ n, x.2.frames = c.frames + n ∧ y.2.frames = d.frames + n
  shown : ∃ n, x.2.surface.shown = c.surface.shown + n ∧ y.2.surface.shown = d.surface.shown + n
  texts : ∃ texts, x.2.surface.gl.compiled = c.surface.gl.compiled ++ texts ∧
    y.2.surface.gl.compiled = d.surface.gl.compiled ++ texts
  events : ∃ told told', x.2.surface.gl.events = c.surface.gl.events ++ told ∧
    y.2.surface.gl.events = d.surface.gl.events ++ told' ∧ Matching c d told told'
  rest : x.2.surface.AtRest x.2.rectangle ∧ y.2.surface.AtRest y.2.rectangle
  alike : Alike x.2 y.2

variable {c d : Canvas MemorySurface}

/-- The result of an attempt can be told from what canvases that are alike have in common. -/
theorem Alike.forecast (h : Alike c d) (source : String) :
    c.forecast source = d.forecast source := by
  have hassembly : c.surface.gl.assembly source = d.surface.gl.assembly source := by
    rw [Memory.assembly, h.barredStage, h.barsPrograms]
    rfl
  have hpresent : c.surface.present.1 = d.surface.present.1 := by
    rw [present, h.nextFailure, present]
    split <;> rfl
  have hroom : (c.rectangle.isNone && c.surface.gl.barsBuffers) =
      (d.rectangle.isNone && d.surface.gl.barsBuffers) := by
    obtain hrectangle | hfree := h.rectangle
    · rw [← Option.not_isSome, hrectangle, Option.not_isSome, h.barsBuffers]
    · rw [← h.barsBuffers, hfree, Bool.and_false, Bool.and_false]
  rw [Canvas.forecast, MemorySurface.forecast, h.hasContext, hassembly, hroom, hpresent]
  rfl

/-- Traces do not tell canvases apart. -/
theorem Alike.traced (h : Alike c d) (t : Traces) :
    Alike { c with surface := c.surface.holding (c.surface.gl.traced t) }
      { d with surface := d.surface.holding (d.surface.gl.traced t) } :=
  ⟨h.width, h.height, h.hasContext, h.barredStage, h.barsPrograms, h.barsBuffers, h.nextFailure,
    h.rectangle⟩

/-- Canvases that are alike are so after a frame, whether it is shown or not. -/
theorem Alike.presented (h : Alike c d) {g g' : Memory} (hstage : g.barredStage = g'.barredStage)
    (hprograms : g.barsPrograms = g'.barsPrograms) (hbuffers : g.barsBuffers = g'.barsBuffers)
    (b b' : Handle) (frames frames' : Nat) :
    Alike { surface := c.surface.present.2.holding g, rectangle := some b, frames }
      { surface := d.surface.present.2.holding g', rectangle := some b', frames := frames' } := by
  rw [present_snd, present_snd]
  exact {
    width := h.width
    height := h.height
    hasContext := h.hasContext
    barredStage := hstage
    barsPrograms := hprograms
    barsBuffers := hbuffers
    nextFailure := rfl
    rectangle := .inl rfl }

/-- Canvases that are alike draw or do not draw, and are alike again. -/
theorem Alike.afterwards (h : Alike c d) (source : String) (capture : Bool) :
    Alike (c.afterwards source capture) (d.afterwards source capture) := by
  rw [Canvas.afterwards, Canvas.afterwards, h.forecast]
  by_cases hdrew : drew (d.forecast source)
  · obtain ⟨hstage, hprograms, hbuffers⟩ :=
      c.surface.gl.drawn_bars c.rectangle source (plain.view c.surface) capture
    obtain ⟨hstage', hprograms', hbuffers'⟩ :=
      d.surface.gl.drawn_bars d.rectangle source (plain.view d.surface) capture
    rw [if_pos hdrew, if_pos hdrew]
    exact h.presented (hstage.trans (h.barredStage.trans hstage'.symm))
      (hprograms.trans (h.barsPrograms.trans hprograms'.symm))
      (hbuffers.trans (h.barsBuffers.trans hbuffers'.symm)) _ _ _ _
  · rw [if_neg hdrew, if_neg hdrew]
    exact h.traced _

theorem ne_of_rest (rest : c.surface.AtRest c.rectangle) :
    c.surface.gl.issued + 3 ≠ c.rectangle.getD (c.surface.gl.issued + 4) := by
  cases hrectangle : c.rectangle with
  | none => exact Nat.ne_of_lt (Nat.lt_succ_self _)
  | some b =>
      have hold : b < c.surface.gl.issued + 1 := Nat.lt_succ_of_le (rest.numbered b hrectangle)
      exact Nat.ne_of_gt (Nat.lt_add_right 2 hold)

theorem fills_fillingEvents (rectangle : Option Handle) (new : Handle) :
    Fills rectangle (fillingEvents rectangle new) := by
  cases rectangle with
  | none => exact .inr ⟨rfl, new, rfl⟩
  | some b => exact .inl rfl

/-- Filling a new buffer is the same on both canvases, if neither has the rectangle. -/
theorem fillingEvents_renamed {rectangle rectangle' : Option Handle} {new new' : Handle}
    {f : Equiv.Perm Handle} (hsome : rectangle.isSome = rectangle'.isSome)
    (hbuffer : f (rectangle.getD new) = rectangle'.getD new') (time : Binary) :
    fillingEvents rectangle' new' = (fillingEvents rectangle new).map (Event.renamed f time) := by
  cases rectangle with
  | none =>
      obtain rfl : rectangle' = none := by simpa using hsome.symm
      exact congrArg (fun b => [Event.bindBuffer (some b), _]) hbuffer.symm
  | some b =>
      obtain ⟨b', rfl⟩ : ∃ b', rectangle' = some b' := Option.isSome_iff_exists.mp hsome.symm
      rfl

/-- The contexts of canvases that are alike are told the same in an attempt. -/
theorem Alike.matching (h : Alike c d) (rest : c.surface.AtRest c.rectangle)
    (rest' : d.surface.AtRest d.rectangle) (source : String) (capture : Bool) :
    Matching c d ((traces source (c.forecast source)).events ++ c.drawing source capture)
      ((traces source (d.forecast source)).events ++ d.drawing source capture) := by
  obtain ⟨f, hprogram, hbuffer⟩ := exists_perm (ne_of_rest rest) (ne_of_rest rest')
  refine ⟨f, (traces source (c.forecast source)).events, ?_⟩
  rw [traces_renamed, h.forecast, drawing, drawing, h.forecast]
  by_cases hdrew : drew (d.forecast source)
  · rw [if_pos hdrew, if_pos hdrew]
    refine ⟨_, _, fillingEvents d.rectangle (d.surface.gl.issued + 4), rfl, ?_,
      fills_fillingEvents _ _, fills_fillingEvents _ _,
      fun hsome => fillingEvents_renamed hsome hbuffer _⟩
    have hinputs := inputEvents_renamed (plain.view c.surface) (plain.view d.surface) f h.width
      h.height source (c.surface.gl.issued + 3) (c.rectangle.getD (c.surface.gl.issued + 4))
    have hpaint := paintEvents_renamed (plain.view c.surface) (plain.view d.surface) f h.width
      h.height capture d.surface.seconds
    rw [hprogram, hbuffer] at hinputs
    rw [List.map_append, hpaint]
    exact congrArg (fun inputs => _ ++ (_ ++ (inputs ++ _))) hinputs.symm
  · rw [if_neg hdrew, if_neg hdrew]
    exact ⟨[], [], [], rfl, rfl, .inl rfl, .inl rfl, fun _ => rfl⟩

/-- **Attempts on canvases that are alike cannot be told apart.**  Rest is what makes both sides
known from their forecasts, and the forecasts are equal (`Alike.forecast`); without it, an object
left by an earlier attempt could be in the way of one of them. -/
theorem indistinct_attempt (rest : c.surface.AtRest c.rectangle)
    (rest' : d.surface.AtRest d.rectangle) (h : Alike c d) (source : String) (capture : Bool) :
    Indistinct c d (c.attempt plain source capture) (d.attempt plain source capture) := by
  have hpixels : blankPixels (plain.view c.surface) capture =
      blankPixels (plain.view d.surface) capture := by
    rw [blankPixels, show (plain.view c.surface).width = (plain.view d.surface).width from h.width,
      show (plain.view c.surface).height = (plain.view d.surface).height from h.height]
    rfl
  have hframes := d.frames_afterwards source capture
  have hshown := d.shown_afterwards source capture
  have hcompiled := d.compiled_afterwards source capture
  rw [← h.forecast] at hframes hshown hcompiled
  have hrest := rest_attempt rest source capture
  have hrest' := rest_attempt rest' source capture
  rw [attempt_eq_forecast rest] at hrest
  rw [attempt_eq_forecast rest'] at hrest'
  rw [attempt_eq_forecast rest, attempt_eq_forecast rest']
  exact {
    result := by rw [h.forecast, hpixels]
    frames := ⟨_, c.frames_afterwards source capture, hframes⟩
    shown := ⟨_, c.shown_afterwards source capture, hshown⟩
    texts := ⟨_, c.compiled_afterwards source capture, hcompiled⟩
    events := ⟨_, _, c.events_afterwards source capture, d.events_afterwards source capture,
      h.matching rest rest' source capture⟩
    rest := ⟨hrest, hrest'⟩
    alike := h.afterwards source capture }

/-- Attempts that cannot be told apart are so with their pixels left out. -/
theorem Indistinct.draw {source : String}
    (h : Indistinct c d (c.attempt plain source false) (d.attempt plain source false)) :
    Indistinct c d (c.draw plain source) (d.draw plain source) :=
  ⟨congrArg (Except.map fun _ => ()) h.result, h.frames, h.shown, h.texts, h.events, h.rest,
    h.alike⟩

/-- **Nothing leaks from one frame to the next.**  Two canvases on new surfaces in memory may have
lived any two lives.  If they have one size and the same failures to come by then, and both have the
rectangle or neither has where buffers are barred, then drawing and capturing a source cannot be
told apart. -/
theorem nothing_leaks {m m' : MemorySurface} (hm : m.gl = {}) (hm' : m'.gl = {})
    (life life' : List (Step Incident))
    (h : Alike (({ surface := m } : Canvas _).steps troubled life)
      (({ surface := m' } : Canvas _).steps troubled life'))
    (source : String) :
    let c := ({ surface := m } : Canvas _).steps troubled life
    let d := ({ surface := m' } : Canvas _).steps troubled life'
    Indistinct c d (c.draw plain source) (d.draw plain source) ∧
      Indistinct c d (c.capture plain source) (d.capture plain source) := by
  intro c d
  have hattempt (capture : Bool) :
      Indistinct c d (c.attempt plain source capture) (d.attempt plain source capture) :=
    indistinct_attempt (rest_steps hm life) (rest_steps hm' life') h source capture
  exact ⟨(hattempt false).draw, hattempt true⟩

/-- A canvas with the rectangle, after a frame that was not shown, is like one on which nothing
could be drawn yet. -/
theorem nothing_leaks_spoiled :
    let small : Canvas MemorySurface := { surface := { width := 2, height := 2 } }
    let c := small.steps troubled
      [.draw "void main() {}", .change (.spoilNextFrame "lost"), .draw "void main() {}"]
    let d := small.steps troubled [.draw "void"]
    c.rectangle.isSome ≠ d.rectangle.isSome ∧ c.surface.gl.issued ≠ d.surface.gl.issued ∧
      (c.draw plain "void main() {}").1 = .ok () ∧
      Indistinct c d (c.draw plain "void main() {}") (d.draw plain "void main() {}") := by
  intro small c d
  have halike : Alike c d := by decide +kernel
  have hrun : c.rectangle.isSome ≠ d.rectangle.isSome ∧
      c.surface.gl.issued ≠ d.surface.gl.issued ∧
      (c.draw plain "void main() {}").1 = .ok () := by
    decide +kernel
  exact ⟨hrun.1, hrun.2.1, hrun.2.2, (nothing_leaks rfl rfl _ _ halike "void main() {}").1⟩

/-! ## From then on -/

/-- Two canvases that are alike, and have the rectangle both or not.  Here the rectangle has to be
the same on both: bars on buffers may come later, and would then stop the one canvas and not the
other. -/
def AlikeEver (c d : Canvas MemorySurface) : Prop :=
  Alike c d ∧ c.rectangle.isSome = d.rectangle.isSome

/-- The results are the same, and one that drew leaves the rectangle on both canvases. -/
theorem AlikeEver.attempt (h : AlikeEver c d) (rest : c.surface.AtRest c.rectangle)
    (rest' : d.surface.AtRest d.rectangle) (source : String) (capture : Bool) :
    (c.attempt plain source capture).1 = (d.attempt plain source capture).1 ∧
      AlikeEver (c.attempt plain source capture).2 (d.attempt plain source capture).2 := by
  have hindistinct := indistinct_attempt rest rest' h.1 source capture
  refine ⟨hindistinct.result, hindistinct.alike, ?_⟩
  rw [attempt_eq_forecast rest, attempt_eq_forecast rest', Canvas.afterwards, Canvas.afterwards,
    h.1.forecast]
  by_cases hdrew : drew (d.forecast source)
  · rw [if_pos hdrew, if_pos hdrew]
    rfl
  · rw [if_neg hdrew, if_neg hdrew]
    exact h.2

theorem AlikeEver.release (h : AlikeEver c d) (rest : c.surface.AtRest c.rectangle)
    (rest' : d.surface.AtRest d.rectangle) : AlikeEver (c.release plain) (d.release plain) := by
  rw [release_eq rest, release_eq rest']
  obtain ⟨h, -⟩ := h
  exact ⟨⟨h.width, h.height, h.hasContext, h.barredStage, h.barsPrograms, h.barsBuffers,
    h.nextFailure, .inl rfl⟩, rfl⟩

/-- An incident does the same to both surfaces. -/
theorem AlikeEver.happen (h : AlikeEver c d) (incident : Incident) :
    AlikeEver { c with surface := c.surface.happen incident }
      { d with surface := d.surface.happen incident } := by
  obtain ⟨⟨hwidth, hheight, hcontext, hstage, hprograms, hbuffers, hfailure, -⟩, hsome⟩ := h
  cases incident with
  | resize width height =>
      exact ⟨⟨rfl, rfl, hcontext, hstage, hprograms, hbuffers, hfailure, .inl hsome⟩, hsome⟩
  | wait seconds =>
      exact ⟨⟨hwidth, hheight, hcontext, hstage, hprograms, hbuffers, hfailure, .inl hsome⟩, hsome⟩
  | spoilNextFrame reason =>
      exact ⟨⟨hwidth, hheight, hcontext, hstage, hprograms, hbuffers, rfl, .inl hsome⟩, hsome⟩
  | barShaders stage =>
      exact ⟨⟨hwidth, hheight, hcontext, rfl, hprograms, hbuffers, hfailure, .inl hsome⟩, hsome⟩
  | barPrograms =>
      exact ⟨⟨hwidth, hheight, hcontext, hstage, rfl, hbuffers, hfailure, .inl hsome⟩, hsome⟩
  | barBuffers =>
      exact ⟨⟨hwidth, hheight, hcontext, hstage, hprograms, rfl, hfailure, .inl hsome⟩, hsome⟩

/-- A step has the same results on both canvases, and they stay alike. -/
theorem AlikeEver.step (h : AlikeEver c d) (rest : c.surface.AtRest c.rectangle)
    (rest' : d.surface.AtRest d.rectangle) (t : Step Incident) :
    (c.tried troubled t).map Trial.result = (d.tried troubled t).map Trial.result ∧
      AlikeEver (c.step troubled t) (d.step troubled t) := by
  have hattempt (source : String) (capture : Bool) :
      [(c.attempt plain source capture).1] = [(d.attempt plain source capture).1] ∧
        AlikeEver (c.attempt plain source capture).2 (d.attempt plain source capture).2 :=
    (h.attempt rest rest' source capture).imp_left (congrArg ([·]))
  cases t with
  | draw source => exact hattempt source false
  | capture source => exact hattempt source true
  | save source path files =>
      have hwidth : (troubled.view c.surface).width = (troubled.view d.surface).width := h.1.width
      have hheight : (troubled.view c.surface).height = (troubled.view d.surface).height :=
        h.1.height
      rw [Canvas.step, Canvas.step, saveAs_canvas, saveAs_canvas, picture_canvas, picture_canvas,
        tried, tried, hwidth, hheight]
      split
      · exact ⟨rfl, h⟩
      · exact hattempt source true
  | release => exact ⟨rfl, h.release rest rest'⟩
  | change what => exact ⟨rfl, h.happen what⟩

/-- **Canvases that are alike have the same results ever after**, whatever is done with both. -/
theorem results_of_alike (h : AlikeEver c d) (rest : c.surface.AtRest c.rectangle)
    (rest' : d.surface.AtRest d.rectangle) (life : List (Step Incident)) :
    (trials troubled c life).map Trial.result = (trials troubled d life).map Trial.result := by
  induction life generalizing c d with
  | nil => rfl
  | cons t life ih =>
      obtain ⟨hresults, hstep⟩ := h.step rest rest' t
      rw [trials, trials, List.map_append, List.map_append, hresults,
        ih hstep (rest_life rest [t]) (rest_life rest' [t])]

end Canvas

end ShaderSketch
