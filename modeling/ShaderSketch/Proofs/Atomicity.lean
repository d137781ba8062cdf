import ShaderSketch.Proofs.Counting
import ShaderSketch.Proofs.Handles

/-!
# Failed attempts

An attempt that fails before there is anything to show does not touch the frame: nothing is bound,
fed, cleared, drawn, read back or shown.  An attempt that fails to show its frame keeps the
rectangle, and the next one can succeed.

## Main definitions

* `Surface.Exchange.touches` — whether an exchange can be seen in the frame
* `Surface.Exchange.builds` — whether it is about a program, or in vain
* `Surface.Exchange.failed` — whether its answer is a failure
* `Canvas.FailedAs` — what a canvas is like after an attempt that failed

## Main results

* `Frame.Attempting.builds` : until there is something to show, an attempt does nothing but build
* `Canvas.failed_attempt` : a failed attempt keeps the previous frame

## Design notes

Only one property of the driver is asked for, that showing a frame fails in its own way.  Handles
may be given out twice here: buffers are followed by what is said about buffers, and an attempt
never deletes one.
-/

namespace ShaderSketch

open Surface

variable {σ κ ℓ : Type}

/-! ## Kinds of exchanges -/

namespace Surface.Exchange

/-- Whether an exchange can be seen in the frame: a program is made current, a buffer is bound or
filled, a program is fed, the frame is cleared, drawn, read back or shown. -/
def touches : Exchange ℓ → Bool
  | ⟨.gl (.useProgram _), _⟩ | ⟨.gl (.bindArrayBuffer _), _⟩ | ⟨.gl (.uploadArrayBuffer _ _), _⟩
  | ⟨.gl (.floatAttribPointer _ _), _⟩ | ⟨.gl (.uniformVec2 _ _ _), _⟩
  | ⟨.gl (.uniformFloat _ _), _⟩ | ⟨.gl (.viewport _ _), _⟩ | ⟨.gl (.clearColor _), _⟩
  | ⟨.gl (.drawTriangleStrip _ _), _⟩ | ⟨.gl (.readRgba _ _), _⟩ | ⟨.present, _⟩ => true
  | _ => false

/-- Whether an exchange is about shaders and programs, short of using one, or asks for a buffer in
vain. -/
def builds : Exchange ℓ → Bool
  | ⟨.gl (.createShader _), _⟩ | ⟨.gl (.shaderSource _ _), _⟩ | ⟨.gl (.compileShader _), _⟩
  | ⟨.gl (.compileStatus _), _⟩ | ⟨.gl (.shaderLog _), _⟩ | ⟨.gl (.deleteShader _), _⟩
  | ⟨.gl .createProgram, _⟩ | ⟨.gl (.attachShader _ _), _⟩ | ⟨.gl (.detachShader _ _), _⟩
  | ⟨.gl (.linkProgram _), _⟩ | ⟨.gl (.linkStatus _), _⟩ | ⟨.gl (.programLog _), _⟩
  | ⟨.gl (.deleteProgram _), _⟩ | ⟨.gl .createBuffer, .error _⟩ => true
  | _ => false

/-- Whether a frame was shown. -/
def shows : Exchange ℓ → Bool
  | ⟨.present, .ok _⟩ => true
  | _ => false

/-- Whether the answer is a failure: an object cannot be had, a stage is not compiled, a program is
not linked, or the frame cannot be shown. -/
def failed : Exchange ℓ → Bool
  | ⟨.gl (.createShader _), .error _⟩ | ⟨.gl .createProgram, .error _⟩
  | ⟨.gl .createBuffer, .error _⟩ | ⟨.gl (.compileStatus _), false⟩
  | ⟨.gl (.linkStatus _), false⟩ | ⟨.present, .error _⟩ => true
  | _ => false

/-- If a frame cannot be shown, then that is what the answer says. -/
def Honest : Exchange ℓ → Prop
  | ⟨.present, .error e⟩ => ∃ reason, e = .showing reason
  | _ => True

/-- What builds cannot be seen. -/
theorem touches_of_builds {e : Exchange ℓ} (h : e.builds) : e.touches = false := by
  unfold builds at h
  split at h <;> first | rfl | cases h

/-- What cannot be seen shows nothing. -/
theorem shows_of_touches {e : Exchange ℓ} (h : e.touches = false) : e.shows = false := by
  unfold shows
  split <;> first | rfl | cases h

end Surface.Exchange

namespace Gl.Ledger

/-- What is the same in a ledger after nothing but building: the current program, the bound buffer,
and what there is to know about buffers.  Shaders and programs are left out, since they come and go
in building, and no frame depends on one that is not current. -/
structure Undisturbed (l l' : Ledger) : Prop where
  current : l'.current = l.current
  bound : l'.bound = l.bound
  filled : l'.filled = l.filled
  buffers : ∀ h, ⟨.buffer, h⟩ ∈ l'.live ↔ ⟨.buffer, h⟩ ∈ l.live

theorem Undisturbed.refl (l : Ledger) : Undisturbed l l := ⟨rfl, rfl, rfl, fun _ => Iff.rfl⟩

theorem Undisturbed.trans {l l' l'' : Ledger} (h : Undisturbed l l') (h' : Undisturbed l' l'') :
    Undisturbed l l'' where
  current := h'.current.trans h.current
  bound := h'.bound.trans h.bound
  filled := h'.filled.trans h.filled
  buffers b := (h'.buffers b).trans (h.buffers b)

theorem undisturbed_add {l : Ledger} {o : Object} (h : o.kind ≠ .buffer) :
    Undisturbed l (l.add o) := by
  refine ⟨rfl, rfl, rfl, fun b => ?_⟩
  rw [add_live, List.mem_cons, or_iff_right]
  rintro rfl
  exact h rfl

theorem undisturbed_drop {l : Ledger} {o : Object} (h : o.kind ≠ .buffer) :
    Undisturbed l (l.drop o) := by
  refine ⟨rfl, rfl, rfl, fun b => ?_⟩
  rw [drop_live, List.mem_filter, and_iff_left]
  refine decide_eq_true ?_
  rintro rfl
  exact h rfl

/-- A rectangle is in a buffer that is live and was filled. -/
def Holds (l : Ledger) (rectangle : Option Handle) : Prop :=
  ∀ buffer ∈ rectangle, ⟨.buffer, buffer⟩ ∈ l.live ∧ buffer ∈ l.filled

theorem Undisturbed.holds {l l' : Ledger} {rectangle : Option Handle} (h : Undisturbed l l')
    (holds : l.Holds rectangle) : l'.Holds rectangle := by
  intro buffer hbuffer
  obtain ⟨hlive, hfilled⟩ := holds buffer hbuffer
  exact ⟨(h.buffers buffer).mpr hlive, h.filled ▸ hfilled⟩

/-- Building is told apart from drawing by its requests, and none of these touches what a frame
depends on. -/
theorem undisturbed_after {l : Ledger} {e : Exchange ℓ} (h : e.builds) :
    Undisturbed l (l.after e) := by
  obtain ⟨request, answer⟩ := e
  cases request with
  | present => cases h
  | gl call =>
      cases call with
      | createShader stage =>
          cases answer with
          | error reason => exact .refl l
          | ok shader => exact undisturbed_add (by simp)
      | createProgram =>
          cases answer with
          | error reason => exact .refl l
          | ok program => exact undisturbed_add (by simp)
      | createBuffer =>
          cases answer with
          | error reason => exact .refl l
          | ok buffer => cases h
      -- a deleted program stays current, and no buffer has the kind of what goes
      | deleteShader shader => exact undisturbed_drop (by simp)
      | deleteProgram program => exact undisturbed_drop (by simp)
      | _ => first | exact .refl l | cases h

/-- Nothing but building disturbs nothing. -/
theorem undisturbed_replay {l : Ledger} {said : List (Exchange ℓ)} (h : ∀ e ∈ said, e.builds) :
    Undisturbed l (l.replay said) := by
  induction said generalizing l with
  | nil => exact .refl l
  | cons e said ih =>
      obtain ⟨he, hsaid⟩ := List.forall_mem_cons.mp h
      exact (undisturbed_after he).trans (ih hsaid)

end Gl.Ledger

/-- Whenever a surface cannot show a frame, it says so and nothing else.  It is the only property of
a driver that is asked for here. -/
def Surface.FailsShowing (s : Surface σ ℓ) : Prop :=
  ∀ x e, (s.answer .present x).1 = .error e → ∃ reason, e = .showing reason

/-- So all that it says is honest. -/
theorem Surface.FailsShowing.honest {s : Surface σ ℓ} (h : s.FailsShowing) (request : Request ℓ)
    (x : σ) : (⟨request, (s.answer request x).1⟩ : Exchange ℓ).Honest := by
  cases request with
  | gl call => trivial
  | present =>
      cases hshown : (s.answer .present x).1 with
      | ok _ => trivial
      | error e => exact h x e hshown

/-- What an honest surface says in a conversation is honest. -/
theorem Surface.FailsShowing.honest_said {α : Type} {s : Surface σ ℓ} (h : s.FailsShowing)
    (r : Routine ℓ α) (x : σ) : ∀ e ∈ r.said s x, e.Honest :=
  r.forall_said (P := Exchange.Honest) h.honest x

namespace MemorySurface

theorem exists_showing_of_present {m : MemorySurface} {e : Canvas.Failure}
    (h : m.present.1 = .error e) : ∃ reason, e = .showing reason := by
  unfold present at h
  split at h
  · cases h
    exact ⟨_, rfl⟩
  · cases h

/-- The surface in memory says so, whether its answers are replaced by a script or not. -/
theorem failsShowing : world.FailsShowing := fun _ _ => exists_showing_of_present

theorem plain_failsShowing : plain.FailsShowing := fun _ _ => exists_showing_of_present

end MemorySurface

/-! ## Attempts -/

namespace Frame

open Gl

variable {said : List (Exchange ℓ)}

theorem Compiling.builds {stage : Stage} {source : String}
    {result : Except Canvas.Failure Handle} (h : Compiling stage source said result) :
    ∀ e ∈ said, e.builds := by
  refine List.all_eq_true.mp ?_
  cases h <;> rfl

theorem Linking.builds {vertex fragment : Handle} {result : Except Canvas.Failure Handle}
    (h : Linking vertex fragment said result) : ∀ e ∈ said, e.builds := by
  refine List.all_eq_true.mp ?_
  cases h <;> rfl

theorem Compiling.failed {stage : Stage} {source : String} {e : Canvas.Failure}
    (h : Compiling stage source said (.error e)) : said.any Exchange.failed := by
  cases h <;> rfl

theorem Linking.failed {vertex fragment : Handle} {e : Canvas.Failure}
    (h : Linking vertex fragment said (.error e)) : said.any Exchange.failed := by
  cases h <;> rfl

/-- Making a program is nothing but building. -/
theorem Assembling.builds {source : String} {result : Except Canvas.Failure Handle}
    (h : Assembling source said result) : ∀ e ∈ said, e.builds := by
  cases h with
  | noVertex vertexStage => exact vertexStage.builds
  | noFragment vertexStage fragmentStage =>
      simp only [List.forall_mem_append]
      exact ⟨vertexStage.builds, fragmentStage.builds, by simp [Exchange.builds]⟩
  | joined vertexStage fragmentStage link =>
      simp only [List.forall_mem_append]
      exact ⟨vertexStage.builds, fragmentStage.builds, link.builds, by simp [Exchange.builds]⟩

/-- Making a program fails in its own ways. -/
theorem Assembling.early {source : String} {e : Canvas.Failure}
    (h : Assembling source said (.error e)) :
    e ≠ .noContext ∧ ∀ reason, e ≠ .showing reason := by
  cases h with
  | noVertex vertexStage => cases vertexStage <;> simp
  | noFragment vertexStage fragmentStage => cases fragmentStage <;> simp
  | joined vertexStage fragmentStage link => cases link <;> simp

/-- When no program comes of it, some answer was a failure. -/
theorem Assembling.failed {source : String} {e : Canvas.Failure}
    (h : Assembling source said (.error e)) : said.any Exchange.failed := by
  cases h with
  | noVertex vertexStage => exact vertexStage.failed
  | noFragment vertexStage fragmentStage => simp [fragmentStage.failed]
  | joined vertexStage fragmentStage link => simp [link.failed]

variable {view : View} {rectangle : Option Handle} {source : String} {capture : Bool}
  {outcome : Except Canvas.Failure Pixels × Option Handle}

/-- An attempt that has nothing to show is nothing but building, and leaves the rectangle as it
was. -/
theorem Attempting.builds (h : Attempting view rectangle source capture said outcome)
    {e : Canvas.Failure} (hfailed : outcome.1 = .error e) (early : ∀ reason, e ≠ .showing reason)
    (honest : ∀ x ∈ said, x.Honest) :
    outcome.2 = rectangle ∧ (∀ x ∈ said, x.builds) ∧ (e = .noContext → said = []) := by
  cases h with
  | noContext => exact ⟨rfl, List.forall_mem_nil _, fun _ => rfl⟩
  | noProgram context failed =>
      cases hfailed
      exact ⟨rfl, failed.builds, fun heq => absurd heq failed.early.1⟩
  | noRectangle context assembled lacking reason =>
      cases hfailed
      refine ⟨lacking.symm, ?_, nofun⟩
      simp only [List.forall_mem_append]
      exact ⟨assembled.builds, by simp [Exchange.builds]⟩
  | finished context assembled holding position resolution time painting shown =>
      -- a frame that cannot be shown is the only failure after the program and the rectangle
      cases shown with
      | ok _ => cases hfailed
      | error e' =>
          cases hfailed
          obtain ⟨reason, hreason⟩ := honest ⟨.present, .error e⟩ (by simp)
          exact absurd hreason (early reason)

theorem Holding.holds {buffer : Handle} {l : Ledger} (h : Holding rectangle said buffer)
    (holds : l.Holds rectangle) : (l.replay said).Holds (some buffer) := by
  cases h with
  | held => exact holds
  | made =>
      rintro _ ⟨⟩
      exact ⟨List.mem_cons_self, List.mem_cons_self⟩

/-- After every attempt the rectangle is in a live buffer that was filled. -/
theorem Attempting.holds {l : Ledger} (h : Attempting view rectangle source capture said outcome)
    (holds : l.Holds rectangle) : (l.replay said).Holds outcome.2 := by
  cases h with
  | noContext => exact holds
  | noProgram _ failed => exact (Ledger.undisturbed_replay failed.builds).holds holds
  | noRectangle => exact nofun
  | finished _ assembled holding position resolution time painting =>
      -- feeding and painting keep the buffers, and what is deleted after them is the program
      have holds' := holding.holds ((Ledger.undisturbed_replay assembled.builds).holds holds)
      simp only [Ledger.replay_append, replay_feeding, painting.replay]
      intro buffer hbuffer
      obtain ⟨hlive, hfilled⟩ := holds' buffer hbuffer
      refine ⟨?_, hfilled⟩
      simpa [Ledger.after] using hlive

/-- An attempt that fails to show its frame has a context and the rectangle. -/
theorem Attempting.isSome_of_showing
    (h : Attempting view rectangle source capture said outcome) {reason : String}
    (hfailed : outcome.1 = .error (.showing reason)) : view.hasContext ∧ outcome.2.isSome := by
  cases h with
  | noContext => cases hfailed
  | noProgram _ failed =>
      cases hfailed
      exact absurd rfl (failed.early.2 reason)
  | noRectangle => cases hfailed
  | finished context => exact ⟨context, rfl⟩

/-- Without a failing answer, an attempt on a surface with a context succeeds. -/
theorem Attempting.succeeds (h : Attempting view rectangle source capture said outcome)
    (context : view.hasContext) (hanswers : said.any Exchange.failed = false) :
    ∃ pixels, outcome.1 = .ok pixels := by
  cases h with
  | noContext lacking => simp [context] at lacking
  | noProgram _ failed => simp [failed.failed] at hanswers
  | noRectangle _ _ _ reason => simp [Exchange.failed] at hanswers
  | @finished _ _ _ _ _ pixels _ _ _ _ _ _ _ shown =>
      cases shown with
      | ok _ => exact ⟨pixels, rfl⟩
      | error e => simp [Exchange.failed] at hanswers

/-- Nothing is shown by building. -/
theorem countP_shows_of_builds (h : ∀ x ∈ said, x.builds) : said.countP Exchange.shows = 0 :=
  List.countP_eq_zero.mpr fun x hx => by
    simp [Exchange.shows_of_touches (Exchange.touches_of_builds (h x hx))]

/-- A frame is shown once when the attempt succeeds, and never when it fails. -/
theorem Attempting.shows (h : Attempting view rectangle source capture said outcome) :
    said.countP Exchange.shows = if outcome.1.isOk then 1 else 0 := by
  cases h with
  | noContext => rfl
  | noProgram _ failed => exact countP_shows_of_builds failed.builds
  | noRectangle _ assembled =>
      rw [List.countP_append, countP_shows_of_builds assembled.builds]
      rfl
  | finished _ assembled holding position resolution time painting shown =>
      have hholding : ∀ {r b} {said : List (Exchange ℓ)}, Holding r said b →
          said.countP Exchange.shows = 0 := by
        rintro r b said ⟨⟩ <;> rfl
      have hfeeding (b p) :
          (feeding view p b position resolution time).countP Exchange.shows = 0 := by
        cases position <;> cases resolution <;> cases time <;> rfl
      have hpainting : ∀ {c x} {said : List (Exchange ℓ)}, Painting view c said x →
          said.countP Exchange.shows = 0 := by
        rintro c x said ⟨⟩ <;> rfl
      simp only [List.countP_append, countP_shows_of_builds assembled.builds, hholding holding,
        hfeeding, hpainting painting]
      cases shown <;> rfl

end Frame

/-! ## Canvases -/

namespace Canvas

open ShaderSketch.Frame Gl

/-- How many frames a surface has shown. -/
def shown (c : Canvas (Logged σ ℓ)) : Nat := c.surface.log.countP Exchange.shows

/-- What is the same in a canvas after an attempt with nothing to show. -/
structure Untouched (c c' : Canvas (Logged σ ℓ)) : Prop where
  rectangle : c'.rectangle = c.rectangle
  frames : c'.frames = c.frames
  shown : c'.shown = c.shown
  current : (Ledger.replay {} c'.surface.log).current = (Ledger.replay {} c.surface.log).current
  bound : (Ledger.replay {} c'.surface.log).bound = (Ledger.replay {} c.surface.log).bound

/-- What a canvas is like after an attempt with a frame that could not be shown: the frame is not
counted, the rectangle is in a live buffer that was filled, and the next attempt, which may follow
more changes of the surface, succeeds if no answer in it is a failure.  What follows such an attempt
is told by its log: there is no other way to say that no answer failed. -/
structure Unshown (w : World σ κ ℓ) (c c' : Canvas (Logged σ ℓ)) : Prop where
  frames : c'.frames = c.frames
  shown : c'.shown = c.shown
  rectangle : ∃ buffer, c'.rectangle = some buffer ∧
    ⟨.buffer, buffer⟩ ∈ (Ledger.replay {} c'.surface.log).live ∧
    buffer ∈ (Ledger.replay {} c'.surface.log).filled
  next : ∀ (changes : List κ) (source : String) (capture : Bool) (said : List (Exchange ℓ)),
    let c'' := c'.steps w.logged (changes.map .change)
    (c''.attempt w.toSurface.logged source capture).2.surface.log = c''.surface.log ++ said →
      said.any Exchange.failed = false →
        ∃ pixels, (c''.attempt w.toSurface.logged source capture).1 = .ok pixels

/-- What a canvas is like after an attempt that failed with `e`: what was said in the attempt cannot
be seen in the frame, unless the frame could not be shown.  The second half is not a weaker version
of the first.  A frame that could not be shown was drawn, so the program and the buffer have changed
by then, and what can be said is that they are good. -/
structure FailedAs (w : World σ κ ℓ) (e : Failure) (c c' : Canvas (Logged σ ℓ)) : Prop where
  early : (∀ reason, e ≠ .showing reason) → Untouched c c' ∧
    ∃ said, c'.surface.log = c.surface.log ++ said ∧ (∀ x ∈ said, x.touches = false) ∧
      (e = .noContext → said = [])
  late : ∀ reason, e = .showing reason → Unshown w c c'

/-- The log of an honest surface is honest. -/
theorem honest_answer {s : Surface σ ℓ} (honest : s.FailsShowing) (request : Request ℓ)
    (x : Logged σ ℓ) (h : ∀ e ∈ x.log, e.Honest) :
    ∀ e ∈ (s.logged.answer request x).2.log, e.Honest :=
  List.forall_mem_append.mpr ⟨h, List.forall_mem_singleton.mpr (honest.honest request x.state)⟩

/-- What every attempt keeps: the rectangle is in a live buffer that was filled, and the log is
honest.  Of the two halves, the first carries `Unshown.rectangle`; the second says that an early
failure is no failure to show in disguise. -/
def Stocked (c : Canvas (Logged σ ℓ)) : Prop :=
  (Ledger.replay {} c.surface.log).Holds c.rectangle ∧ ∀ e ∈ c.surface.log, e.Honest

theorem stocked_attempt {s : Surface σ ℓ} (honest : s.FailsShowing) (source : String)
    (capture : Bool) (c : Canvas (Logged σ ℓ)) (h : c.Stocked) :
    (c.attempt s.logged source capture).2.Stocked := by
  obtain ⟨said, hattempted⟩ := attempt_logged s source capture c
  refine ⟨?_, Routine.run_induction (honest_answer honest) _ h.2⟩
  rw [hattempted.log, Ledger.replay_append]
  exact hattempted.conversation.holds h.1

theorem stocked_steps {w : World σ κ ℓ} (honest : w.FailsShowing) (x : σ)
    (life : List (Step κ)) : ((onto x).steps w.logged life).Stocked := by
  have hstart : (onto (ℓ := ℓ) x).Stocked := ⟨fun _ h => (by cases h), List.forall_mem_nil _⟩
  refine steps_induction (P := Stocked) ?_ ?_ ?_ hstart life
  · intro c source capture h
    exact stocked_attempt honest source capture c h
  · intro c h
    exact ⟨nofun, Routine.run_induction (honest_answer honest) _ h.2⟩
  · intro c what h
    exact h

/-- An attempt with nothing to show leaves the canvas as it was. -/
theorem untouched_attempt {s : Surface σ ℓ} (honest : s.FailsShowing) {source : String}
    {capture : Bool} {c : Canvas (Logged σ ℓ)} {e : Failure} (h : c.Stocked)
    (hfailed : (c.attempt s.logged source capture).1 = .error e)
    (early : ∀ reason, e ≠ .showing reason) :
    Untouched c (c.attempt s.logged source capture).2 ∧
      ∃ said, (c.attempt s.logged source capture).2.surface.log = c.surface.log ++ said ∧
        (∀ x ∈ said, x.touches = false) ∧ (e = .noContext → said = []) := by
  obtain ⟨said, hattempted⟩ := attempt_logged s source capture c
  have hhonest := (stocked_attempt honest source capture c h).2
  rw [hattempted.log] at hhonest
  -- everything that was said in the attempt is about a program, and so cannot be seen
  obtain ⟨hrectangle, hbuilds, hsilent⟩ :=
    hattempted.conversation.builds hfailed early (List.forall_mem_append.mp hhonest).2
  have hsame := Ledger.undisturbed_replay (l := Ledger.replay {} c.surface.log) hbuilds
  rw [← Ledger.replay_append, ← hattempted.log] at hsame
  refine ⟨⟨hrectangle, ?_, ?_, hsame.current, hsame.bound⟩, said, hattempted.log, ?_, hsilent⟩
  · rw [hattempted.frames, hfailed]
    rfl
  · rw [shown, hattempted.log, List.countP_append, countP_shows_of_builds hbuilds]
    rfl
  · exact fun x hx => Exchange.touches_of_builds (hbuilds x hx)

/-- An attempt with a frame that could not be shown leaves the rectangle for the next one. -/
theorem unshown_attempt {w : World σ κ ℓ} (honest : w.FailsShowing) {source : String}
    {capture : Bool} {c : Canvas (Logged σ ℓ)} {reason : String} (h : c.Stocked)
    (hfailed : (c.attempt w.toSurface.logged source capture).1 = .error (.showing reason)) :
    Unshown w c (c.attempt w.toSurface.logged source capture).2 := by
  obtain ⟨said, hattempted⟩ := attempt_logged w.toSurface source capture c
  obtain ⟨hcontext, hsome⟩ := hattempted.conversation.isSome_of_showing hfailed
  obtain ⟨buffer, hbuffer⟩ := Option.isSome_iff_exists.mp hsome
  have hholds := (stocked_attempt honest source capture c h).1 buffer hbuffer
  refine ⟨?_, ?_, ⟨buffer, hbuffer, hholds⟩, ?_⟩
  · rw [hattempted.frames, hfailed]
    rfl
  · rw [shown, hattempted.log, List.countP_append, hattempted.conversation.shows, hfailed]
    rfl
  · intro changes source' capture' said' c'' hlog hanswers
    have hcontext' : (w.view c''.surface.state).hasContext :=
      hasContext_steps w.logged _ (w.logged.hasContext_run _ hcontext)
    -- the log leaves no choice as to what was said in the next attempt
    obtain ⟨said'', hattempted'⟩ := attempt_logged w.toSurface source' capture' c''
    obtain rfl : said' = said'' := List.append_cancel_left (hlog.symm.trans hattempted'.log)
    exact hattempted'.conversation.succeeds hcontext' hanswers

/-- Drawing fails as the attempt does. -/
theorem attempt_of_draw {s : Surface σ ℓ} {source : String} {c : Canvas σ} {e : Failure}
    (h : (c.draw s source).1 = .error e) : (c.attempt s source false).1 = .error e := by
  unfold draw at h
  rcases hresult : c.attempt s source false with ⟨e' | pixels, c'⟩
  · rw [hresult] at h
    cases h
    rfl
  · rw [hresult] at h
    cases h

/-- **A failed attempt keeps the previous frame.**  On every canvas that is reached, whatever it is
asked to draw and whatever its driver answers, an attempt that fails before its frame is to be shown
can be seen nowhere, and one that fails because its frame cannot be shown is not counted and can be
made up for by the next.  Honesty buys the distinction between the two: a driver that reports a
frame which it cannot show as an allocation that failed would leave that frame drawn behind an error
that promises nothing was touched. -/
theorem failed_attempt (w : World σ κ ℓ) (honest : w.FailsShowing) (x : σ)
    (life : List (Step κ)) (source : String) :
    let c := (onto x).steps w.logged life
    (∀ e, (c.draw w.toSurface.logged source).1 = .error e →
      FailedAs w e c (c.draw w.toSurface.logged source).2) ∧
    ∀ e, (c.capture w.toSurface.logged source).1 = .error e →
      FailedAs w e c (c.capture w.toSurface.logged source).2 := by
  intro c
  have hstocked : c.Stocked := stocked_steps honest x life
  have hattempt (capture : Bool) (e : Failure)
      (hfailed : (c.attempt w.toSurface.logged source capture).1 = .error e) :
      FailedAs w e c (c.attempt w.toSurface.logged source capture).2 := by
    refine ⟨fun early => untouched_attempt honest hstocked hfailed early, ?_⟩
    rintro reason rfl
    exact unshown_attempt honest hstocked hfailed
  refine ⟨fun e hfailed => hattempt false e ?_, fun e hfailed => hattempt true e hfailed⟩
  exact attempt_of_draw hfailed

/-- A life in which a source does not compile and the next frame is going to fail. -/
def spoiledLife : List (Step MemorySurface.Change) :=
  [.draw "void main(", .change (.spoilNextFrame "lost")]

theorem failed_attempt_spoiled :
    let c := (onto MemorySurface.small).steps MemorySurface.world.logged spoiledLife
    let s := MemorySurface.world.toSurface.logged
    FailedAs MemorySurface.world (.showing "lost") c (c.draw s "void main() {}").2 ∧
      ((c.draw s "void main() {}").2.draw s "void main() {}").1 = .ok () := by
  intro c s
  have hrun : (c.draw s "void main() {}").1 = .error (.showing "lost") ∧
      ((c.draw s "void main() {}").2.draw s "void main() {}").1 = .ok () := by
    decide +kernel
  refine ⟨?_, hrun.2⟩
  exact (failed_attempt MemorySurface.world MemorySurface.failsShowing MemorySurface.small
    spoiledLife "void main() {}").1 _ hrun.1

end Canvas

end ShaderSketch
