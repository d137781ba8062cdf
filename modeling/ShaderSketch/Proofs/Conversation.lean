import ShaderSketch.Canvas.Routine

/-!
# Conversations

A routine and a surface take turns: a request, an answer, the next request.  What a routine can say
at all does not depend on the surface, and what a surface was told does not depend on who looks at
it.  This module keeps the two apart and joins them again.

## Main definitions

* `Surface.Exchange` — a request with the answer that it got
* `Routine.Says r said a` — `r` can have the conversation `said` and end it with `a`
* `Routine.said` — the conversation that a routine has with a surface
* `Surface.Logged`, `Surface.logged` — a surface that keeps everything that was said to it
* `Surface.World` — a surface, and what can happen to it while nobody talks to it

## Main results

`Routine.run_logged` : running a routine on a surface that keeps a log is running it on the surface
itself, and the log grows by a conversation that the routine can have.  A law about everything that
a routine `Says` is therefore a law about every run, whatever the driver does.

## Design notes

`Says` is a relation and not a tree of answers, so that a routine's conversations can be described
by a grammar of their own (`ShaderSketch.Proofs.Attempt`), and later proofs go by its cases.
-/

namespace ShaderSketch

/-- A request with the answer that it got. -/
structure Surface.Exchange (ℓ : Type) where
  request : Surface.Request ℓ
  answer : request.Answer

variable {σ κ ℓ α β : Type}

/-! ## What a routine can say -/

namespace Routine

/-- A routine can have a conversation and end it with a result, if the answers are as given.  A
routine by itself can be given any answers; which of these conversations a surface has with it is
`Routine.said`. -/
inductive Says : Routine ℓ α → List (Surface.Exchange ℓ) → α → Prop
  | done (a : α) : Says (.done a) [] a
  | ask {request : Surface.Request ℓ} {next : request.Answer → Routine ℓ α}
      {answer : request.Answer} {said : List (Surface.Exchange ℓ)} {a : α}
      (tail : Says (next answer) said a) :
      Says (.ask request next) (⟨request, answer⟩ :: said) a

theorem says_done {a b : α} {said : List (Surface.Exchange ℓ)} :
    Says (.done a) said b ↔ said = [] ∧ b = a := by
  constructor
  · rintro ⟨⟩
    exact ⟨rfl, rfl⟩
  · rintro ⟨rfl, rfl⟩
    exact .done b

theorem says_ask {request : Surface.Request ℓ} {next : request.Answer → Routine ℓ α}
    {said : List (Surface.Exchange ℓ)} {a : α} :
    Says (.ask request next) said a ↔
      ∃ answer rest, said = ⟨request, answer⟩ :: rest ∧ Says (next answer) rest a := by
  constructor
  · intro h
    cases h with
    | ask tail => exact ⟨_, _, rfl, tail⟩
  · rintro ⟨answer, rest, rfl, tail⟩
    exact .ask tail

/-- What one routine after another says is what the first says and then what the second says. -/
theorem says_bind {r : Routine ℓ α} {f : α → Routine ℓ β}
    {said : List (Surface.Exchange ℓ)} {b : β} :
    Says (r.bind f) said b ↔
      ∃ first a rest, said = first ++ rest ∧ Says r first a ∧ Says (f a) rest b := by
  -- the first routine is used up request by request, and what is left is the second
  induction r generalizing said with
  | done a =>
      simp only [bind, says_done]
      constructor
      · intro h
        exact ⟨[], a, said, rfl, ⟨rfl, rfl⟩, h⟩
      · rintro ⟨_, _, rest, rfl, ⟨rfl, rfl⟩, h⟩
        exact h
  | ask request next ih =>
      simp only [bind, says_ask, ih]
      constructor
      · rintro ⟨answer, _, rfl, first, a, rest, rfl, hfirst, hrest⟩
        exact ⟨_, a, rest, rfl, ⟨answer, first, rfl, hfirst⟩, hrest⟩
      · rintro ⟨_, a, rest, rfl, ⟨answer, first, rfl, hfirst⟩, hrest⟩
        exact ⟨answer, _, rfl, first, a, rest, rfl, hfirst, hrest⟩

/-- The same in the notation for blocks. -/
theorem says_bind' {r : Routine ℓ α} {f : α → Routine ℓ β}
    {said : List (Surface.Exchange ℓ)} {b : β} :
    Says (r >>= f) said b ↔
      ∃ first a rest, said = first ++ rest ∧ Says r first a ∧ Says (f a) rest b :=
  says_bind

theorem says_pure {a b : α} {said : List (Surface.Exchange ℓ)} :
    Says (pure a) said b ↔ said = [] ∧ b = a :=
  says_done

/-- A routine that starts with a graphics call says that call first. -/
theorem says_call_bind {c : Gl.Call ℓ} {f : c.Answer → Routine ℓ β}
    {said : List (Surface.Exchange ℓ)} {b : β} :
    Says (call c >>= f) said b ↔
      ∃ answer rest, said = ⟨.gl c, answer⟩ :: rest ∧ Says (f answer) rest b :=
  says_ask

theorem says_call {c : Gl.Call ℓ} {said : List (Surface.Exchange ℓ)} {a : c.Answer} :
    Says (call c) said a ↔ said = [⟨.gl c, a⟩] := by
  rw [call, says_ask]
  constructor
  · rintro ⟨answer, rest, rfl, htail⟩
    obtain ⟨rfl, rfl⟩ := says_done.mp htail
    rfl
  · rintro rfl
    exact ⟨a, [], rfl, .done a⟩

theorem says_present_bind {f : Except Canvas.Failure Unit → Routine ℓ β}
    {said : List (Surface.Exchange ℓ)} {b : β} :
    Says (present >>= f) said b ↔
      ∃ answer rest, said = ⟨.present, answer⟩ :: rest ∧ Says (f answer) rest b :=
  says_ask

/-- The conversation that a routine has with a surface. -/
def said (s : Surface σ ℓ) : Routine ℓ α → σ → List (Surface.Exchange ℓ)
  | .done _, _ => []
  | .ask request next, x =>
    ⟨request, (s.answer request x).1⟩ ::
      said s (next (s.answer request x).1) (s.answer request x).2

/-- A routine can say what it says to a surface, and its result is the one that it has there. -/
theorem says_said (s : Surface σ ℓ) (r : Routine ℓ α) (x : σ) :
    r.Says (r.said s x) (r.run s x).1 := by
  induction r generalizing x with
  | done a => exact .done a
  | ask request next ih => exact .ask (ih _ _)

/-- What one exchange after another adds up to, a whole conversation comes to. -/
theorem said_induction {s : Surface σ ℓ} {P : σ → List (Surface.Exchange ℓ) → σ → Prop}
    (refl : ∀ x, P x [] x)
    (cons : ∀ request x said x', P (s.answer request x).2 said x' →
      P x (⟨request, (s.answer request x).1⟩ :: said) x')
    (r : Routine ℓ α) (x : σ) : P x (r.said s x) (r.run s x).2 := by
  induction r generalizing x with
  | done a => exact refl x
  | ask request next ih => exact cons request x _ _ (ih _ _)

end Routine

/-! ## Surfaces that keep a log -/

/-- The state of a surface, with everything that was said to it so far. -/
structure Surface.Logged (σ ℓ : Type) where
  state : σ
  log : List (Surface.Exchange ℓ) := []

/-- The surface that answers as another one does, and keeps what was said. -/
def Surface.logged (s : Surface σ ℓ) : Surface (Surface.Logged σ ℓ) ℓ where
  view x := s.view x.state
  answer request x :=
    let (answer, state) := s.answer request x.state
    (answer, ⟨state, x.log ++ [⟨request, answer⟩]⟩)

/-- **A log changes nothing and leaves nothing out.**  A routine has the same result and leaves the
same state when a log is kept, and what is added to the log is something that it can say.  So it
costs nothing to prove a property of every surface on surfaces that keep a log, where there is more
to speak of. -/
theorem Routine.run_logged (s : Surface σ ℓ) (r : Routine ℓ α) (x : Surface.Logged σ ℓ) :
    ∃ said, r.Says said (r.run s x.state).1 ∧
      r.run s.logged x = ((r.run s x.state).1, ⟨(r.run s x.state).2, x.log ++ said⟩) := by
  induction r generalizing x with
  | done a => exact ⟨[], .done a, by simp [run]⟩
  | ask request next ih =>
      -- what comes after the answer starts on a log that has it already
      obtain ⟨said, hsaid, hrun⟩ := ih (s.answer request x.state).1
        ⟨(s.answer request x.state).2, x.log ++ [⟨request, (s.answer request x.state).1⟩]⟩
      refine ⟨_ :: said, .ask hsaid, ?_⟩
      simpa [run, Surface.logged] using hrun

/-! ## Worlds -/

/-- A surface, and what can happen to it while nobody talks to it: its size changes, a frame is
going to fail, a driver runs out of memory.  A surface that has a context has it for life.  The last
two conditions are there for the canvas, which keeps its buffer only as long as there is a context
to hold it. -/
structure Surface.World (σ κ ℓ : Type) extends Surface σ ℓ where
  happen : κ → σ → σ
  hasContext_answer : ∀ request x, (view x).hasContext → (view (answer request x).2).hasContext
  hasContext_happen : ∀ k x, (view x).hasContext → (view (happen k x)).hasContext

/-- A world whose surface keeps a log. -/
def Surface.World.logged (w : Surface.World σ κ ℓ) : Surface.World (Surface.Logged σ ℓ) κ ℓ where
  toSurface := w.toSurface.logged
  happen what x := { x with state := w.happen what x.state }
  hasContext_answer request x := w.hasContext_answer request x.state
  hasContext_happen what x := w.hasContext_happen what x.state

/-- What every answer keeps, a routine keeps. -/
theorem Routine.run_induction {s : Surface σ ℓ} {P : σ → Prop}
    (hanswer : ∀ request x, P x → P (s.answer request x).2) (r : Routine ℓ α) {x : σ} (h : P x) :
    P (r.run s x).2 := by
  induction r generalizing x with
  | done a => exact h
  | ask request next ih => exact ih _ (hanswer request x h)

/-- Every answer in a conversation was given in some state, and what every answer keeps holds of
that state. -/
theorem Routine.answered_of_mem_said {s : Surface σ ℓ} {P : σ → Prop}
    (hanswer : ∀ request x, P x → P (s.answer request x).2) (r : Routine ℓ α) {x : σ} (h : P x) :
    ∀ e ∈ r.said s x, ∃ x', P x' ∧ e = ⟨e.request, (s.answer e.request x').1⟩ := by
  induction r generalizing x with
  | done a => exact List.forall_mem_nil _
  | ask request next ih =>
      exact List.forall_mem_cons.mpr ⟨⟨x, h, rfl⟩, ih _ (hanswer request x h)⟩

/-- What holds of every answer of a surface, holds of every exchange in a conversation with it.
Only single answers have to be looked at, since a routine has no other influence on what it is told.
-/
theorem Routine.forall_said {s : Surface σ ℓ} {P : Surface.Exchange ℓ → Prop}
    (hanswer : ∀ request x, P ⟨request, (s.answer request x).1⟩) (r : Routine ℓ α) (x : σ) :
    ∀ e ∈ r.said s x, P e := by
  intro e he
  obtain ⟨x', -, heq⟩ := r.answered_of_mem_said (P := fun _ => True) (fun _ _ _ => trivial) trivial
    e he
  rw [heq]
  exact hanswer e.request x'

/-- No routine loses the context of a surface. -/
theorem Surface.World.hasContext_run (w : Surface.World σ κ ℓ) (r : Routine ℓ α) {x : σ}
    (h : (w.view x).hasContext) : (w.view (r.run w.toSurface x).2).hasContext :=
  r.run_induction (P := fun x => (w.view x).hasContext) w.hasContext_answer h

end ShaderSketch
