import ShaderSketch.Proofs.Atomicity

/-!
# What stops an attempt

An attempt takes one hurdle after another, and each of them is decided by an answer of the surface.
The first one that it fails at decides what comes of it, whatever the surface would have answered
later.

## Main definitions

* `Frame.Hurdle`, `Frame.hurdles` — what an attempt has to take, in order
* `Frame.Hurdle.outcome?` — how a hurdle was taken, read off what was said
* `Frame.race` — one hurdle after another, up to the first failure
* `Surface.Exchange.clears` — whether an exchange reads a log, detaches or deletes
* `Frame.Halts` — a conversation that only clears up after its failing answer

## Main results

* `Frame.Attempting.race` : an attempt comes to what its hurdles come to
* `Frame.Attempting.halts` : an attempt that fails only clears up from there on
* `Canvas.first_failure_decides` : both, on every canvas and every surface

## Design notes

A driver is free to give one handle out twice, so the verdict on a shader is looked for behind the
answer that made it, and not by its handle alone.
-/

namespace ShaderSketch

open Surface

variable {σ ℓ : Type}

/-! ## Answers -/

namespace Surface.Exchange

/-- The answer to a call for a shader of a stage. -/
def shader? (stage : Gl.Stage) : Exchange ℓ → Option (Except String Gl.Handle)
  | ⟨.gl (.createShader stage'), answer⟩ => if stage' = stage then some answer else none
  | _ => none

/-- Whether a shader was compiled. -/
def compileStatus? (shader : Gl.Handle) : Exchange ℓ → Option Bool
  | ⟨.gl (.compileStatus h), status⟩ => if h = shader then some status else none
  | _ => none

/-- What the compiler said about a shader. -/
def shaderLog? (shader : Gl.Handle) : Exchange ℓ → Option String
  | ⟨.gl (.shaderLog h), log⟩ => if h = shader then some log else none
  | _ => none

/-- The answer to a call for a program. -/
def program? : Exchange ℓ → Option (Except String Gl.Handle)
  | ⟨.gl .createProgram, answer⟩ => some answer
  | _ => none

/-- Whether a program was linked. -/
def linkStatus? (program : Gl.Handle) : Exchange ℓ → Option Bool
  | ⟨.gl (.linkStatus h), status⟩ => if h = program then some status else none
  | _ => none

/-- What the linker said about a program. -/
def programLog? (program : Gl.Handle) : Exchange ℓ → Option String
  | ⟨.gl (.programLog h), log⟩ => if h = program then some log else none
  | _ => none

/-- The answer to a call for a buffer. -/
def buffer? : Exchange ℓ → Option (Except String Gl.Handle)
  | ⟨.gl .createBuffer, answer⟩ => some answer
  | _ => none

/-- Whether the frame was shown. -/
def shown? : Exchange ℓ → Option (Except Canvas.Failure Unit)
  | ⟨.present, answer⟩ => some answer
  | _ => none

/-- Whether an exchange does nothing but clear up: a log is read, a shader is detached, or an object
is deleted. -/
def clears : Exchange ℓ → Bool
  | ⟨.gl (.shaderLog _), _⟩ | ⟨.gl (.programLog _), _⟩ | ⟨.gl (.detachShader _ _), _⟩
  | ⟨.gl (.deleteShader _), _⟩ | ⟨.gl (.deleteProgram _), _⟩ | ⟨.gl (.deleteBuffer _), _⟩ => true
  | _ => false

end Surface.Exchange

namespace Frame

open Gl

/-! ## Hurdles -/

/-- What can stop an attempt. -/
inductive Hurdle
  | context
  | shader (stage : Stage)
  | compilation (stage : Stage)
  | program
  | linking
  | rectangle
  | showing
  deriving Repr, DecidableEq

/-- What it takes to make a program, in order. -/
def programHurdles : List Hurdle :=
  [.shader .vertex, .compilation .vertex, .shader .fragment, .compilation .fragment, .program,
    .linking]

/-- What an attempt has to take, in order; a buffer is asked for only where there is none. -/
def hurdles (rectangle : Option Handle) : List Hurdle :=
  .context :: (programHurdles ++ ((if rectangle.isNone then [.rectangle] else []) ++ [.showing]))

/-- What comes of a call for an object. -/
def granted (what : Canvas.Resource) : Except String Handle → Except Canvas.Failure Unit
  | .ok _ => .ok ()
  | .error reason => .error (.allocation what reason)

/-- A conversation from the first answer of a kind on. -/
def since {α : Type} (answer? : Exchange ℓ → Option α) (said : List (Exchange ℓ)) :
    List (Exchange ℓ) :=
  said.dropWhile fun e => (answer? e).isNone

/-- What comes of the verdict on an object that was made: it is good, or the log says why not. -/
def verdict? (made? : Exchange ℓ → Option (Except String Handle))
    (status? : Handle → Exchange ℓ → Option Bool) (log? : Handle → Exchange ℓ → Option String)
    (failure : String → Canvas.Failure) (said : List (Exchange ℓ)) :
    Option (Except Canvas.Failure Unit) :=
  match said.findSome? made? with
  | some (.ok h) =>
    match (since made? said).findSome? (status? h) with
    | some true => some (.ok ())
    | some false => ((since made? said).findSome? (log? h)).map fun log => .error (failure log)
    | none => none
  | _ => none

/-- How a hurdle was taken, if it was reached: each is decided by the answer of the surface that it
is named for, with what the driver said.  A hurdle that was not reached has no outcome, so that a
race cannot be won by what was never asked. -/
def Hurdle.outcome? (view : View) (said : List (Exchange ℓ)) :
    Hurdle → Option (Except Canvas.Failure Unit)
  | .context => some (if view.hasContext then .ok () else .error .noContext)
  | .shader stage => (said.findSome? (Exchange.shader? stage)).map (granted (.shader stage))
  | .compilation stage =>
    verdict? (Exchange.shader? stage) Exchange.compileStatus? Exchange.shaderLog?
      (.compilation stage) said
  | .program => (said.findSome? Exchange.program?).map (granted .program)
  | .linking =>
    verdict? Exchange.program? Exchange.linkStatus? Exchange.programLog? .linking said
  | .rectangle => (said.findSome? Exchange.buffer?).map (granted .rectangle)
  | .showing => said.findSome? Exchange.shown?

/-- What hurdles come to, one after another: the first that is not taken decides.  What stands
behind the first failure is not looked at, which is all that is meant by the first failure deciding.
-/
def race (outcome? : Hurdle → Option (Except Canvas.Failure Unit)) :
    List Hurdle → Option (Except Canvas.Failure Unit)
  | [] => some (.ok ())
  | h :: rest =>
    match outcome? h with
    | some (.ok _) => race outcome? rest
    | other => other

section

variable {outcome? : Hurdle → Option (Except Canvas.Failure Unit)} {first : Hurdle}
  {hs hs' : List Hurdle}

theorem race_cons_of_ok (h : outcome? first = some (.ok ())) :
    race outcome? (first :: hs) = race outcome? hs := by
  rw [race, h]

theorem race_cons_of_ne (h : outcome? first ≠ some (.ok ())) :
    race outcome? (first :: hs) = outcome? first := by
  rw [race]
  split
  · next heq => exact absurd heq h
  · rfl

theorem race_append_of_ok (h : race outcome? hs = some (.ok ())) :
    race outcome? (hs ++ hs') = race outcome? hs' := by
  induction hs with
  | nil => rfl
  | cons first rest ih =>
      by_cases hfirst : outcome? first = some (.ok ())
      · rw [race_cons_of_ok hfirst] at h
        rw [List.cons_append, race_cons_of_ok hfirst, ih h]
      · rw [race_cons_of_ne hfirst] at h
        exact absurd h hfirst

theorem race_append_of_error {e : Canvas.Failure} (h : race outcome? hs = some (.error e)) :
    race outcome? (hs ++ hs') = some (.error e) := by
  induction hs with
  | nil => cases h
  | cons first rest ih =>
      by_cases hfirst : outcome? first = some (.ok ())
      · rw [race_cons_of_ok hfirst] at h
        rw [List.cons_append, race_cons_of_ok hfirst, ih h]
      · rw [race_cons_of_ne hfirst] at h
        rw [List.cons_append, race_cons_of_ne hfirst, h]

/-- Hurdles come to a success just if each of them was taken. -/
theorem race_eq_ok : race outcome? hs = some (.ok ()) ↔ ∀ h ∈ hs, outcome? h = some (.ok ()) := by
  induction hs with
  | nil => exact iff_of_true rfl (List.forall_mem_nil _)
  | cons first rest ih =>
      rw [List.forall_mem_cons]
      by_cases hfirst : outcome? first = some (.ok ())
      · rw [race_cons_of_ok hfirst, ih, and_iff_right hfirst]
      · rw [race_cons_of_ne hfirst]
        exact iff_of_false hfirst fun h => hfirst h.1

/-- Hurdles come to the failure at the first that was not taken. -/
theorem race_eq_error {e : Canvas.Failure} : race outcome? hs = some (.error e) ↔
    ∃ before h after, hs = before ++ h :: after ∧
      (∀ h' ∈ before, outcome? h' = some (.ok ())) ∧ outcome? h = some (.error e) := by
  constructor
  · intro h
    induction hs with
    | nil => cases h
    | cons first rest ih =>
        by_cases hfirst : outcome? first = some (.ok ())
        · rw [race_cons_of_ok hfirst] at h
          obtain ⟨before, h', after, rfl, hbefore, herror⟩ := ih h
          exact ⟨first :: before, h', after, rfl,
            List.forall_mem_cons.mpr ⟨hfirst, hbefore⟩, herror⟩
        · rw [race_cons_of_ne hfirst] at h
          exact ⟨[], first, rest, rfl, List.forall_mem_nil _, h⟩
  · rintro ⟨before, h, after, rfl, hbefore, herror⟩
    rw [race_append_of_ok (race_eq_ok.mpr hbefore), race_cons_of_ne (by simp [herror]), herror]

end

/-! ## Hurdles in a conversation -/

section

variable {α : Type} {answer? : Exchange ℓ → Option α} {front said rest : List (Exchange ℓ)}

/-- What has no answer of a kind in it is passed over in the search for one. -/
theorem findSome?_append_of_silent (silent : ∀ e ∈ front, answer? e = none) :
    (front ++ said).findSome? answer? = said.findSome? answer? := by
  rw [List.findSome?_append, List.findSome?_eq_none_iff.mpr silent, Option.none_or]

theorem since_append_of_silent (silent : ∀ e ∈ front, answer? e = none) :
    since answer? (front ++ said) = since answer? said :=
  List.dropWhile_append_of_pos fun e he => by rw [silent e he]; rfl

theorem verdict?_append_of_silent {made? : Exchange ℓ → Option (Except String Handle)}
    {status? : Handle → Exchange ℓ → Option Bool} {log? : Handle → Exchange ℓ → Option String}
    {failure : String → Canvas.Failure} (silent : ∀ e ∈ front, made? e = none) :
    verdict? made? status? log? failure (front ++ said) =
      verdict? made? status? log? failure said := by
  rw [verdict?, findSome?_append_of_silent silent, since_append_of_silent silent, verdict?]

variable {view : View} {result : Except Canvas.Failure Handle}

/-- Compiling takes the two hurdles of its stage, or fails at one of them. -/
theorem Compiling.race {stage : Stage} {source : String} (h : Compiling stage source said result)
    (front rest : List (Exchange ℓ)) (silent : ∀ e ∈ front, e.shader? stage = none) :
    Frame.race (Hurdle.outcome? view (front ++ (said ++ rest)))
        [.shader stage, .compilation stage] =
      some (result.map fun _ => ()) := by
  simp only [Frame.race, Hurdle.outcome?, findSome?_append_of_silent silent,
    verdict?_append_of_silent silent]
  cases h <;> simp [List.findSome?_cons, granted, verdict?, since, Exchange.shader?,
    Exchange.compileStatus?, Exchange.shaderLog?, Except.map]

/-- Linking takes the two hurdles of a program, or fails at one of them. -/
theorem Linking.race {vertex fragment : Handle} (h : Linking vertex fragment said result)
    (front rest : List (Exchange ℓ)) (silent : ∀ e ∈ front, e.program? = none) :
    Frame.race (Hurdle.outcome? view (front ++ (said ++ rest))) [.program, .linking] =
      some (result.map fun _ => ()) := by
  simp only [Frame.race, Hurdle.outcome?, findSome?_append_of_silent silent,
    verdict?_append_of_silent silent]
  cases h <;> simp [List.findSome?_cons, granted, verdict?, since, joining, Exchange.program?,
    Exchange.linkStatus?, Exchange.programLog?, Except.map]

/-- Compiling a stage asks for a shader of that stage, and for nothing else. -/
theorem Compiling.silent {stage : Stage} {source : String}
    (h : Compiling stage source said result) :
    ∀ e ∈ said, (∀ stage', stage' ≠ stage → e.shader? stage' = none) ∧ e.program? = none ∧
      e.buffer? = none ∧ e.shown? = none := by
  cases h <;> simp [Exchange.shader?, Exchange.program?, Exchange.buffer?, Exchange.shown?, eq_comm]

/-- Linking asks for neither a buffer nor the frame to be shown. -/
theorem Linking.silent {vertex fragment : Handle} (h : Linking vertex fragment said result) :
    ∀ e ∈ said, e.buffer? = none ∧ e.shown? = none := by
  cases h <;> simp [joining, Exchange.buffer?, Exchange.shown?]

/-- Making a program asks for neither a buffer nor the frame to be shown. -/
theorem Assembling.silent {source : String} (h : Assembling source said result) :
    ∀ e ∈ said, e.buffer? = none ∧ e.shown? = none := by
  cases h with
  | noVertex vertexStage => exact fun e he => (vertexStage.silent e he).2.2
  | noFragment vertexStage fragmentStage =>
      simp only [List.forall_mem_append]
      exact ⟨fun e he => (vertexStage.silent e he).2.2, fun e he => (fragmentStage.silent e he).2.2,
        by simp [Exchange.buffer?, Exchange.shown?]⟩
  | joined vertexStage fragmentStage link =>
      simp only [List.forall_mem_append]
      exact ⟨fun e he => (vertexStage.silent e he).2.2, fun e he => (fragmentStage.silent e he).2.2,
        link.silent, by simp [Exchange.buffer?, Exchange.shown?]⟩

/-- Making a program takes the hurdles of both stages and of the program, or fails at one. -/
theorem Assembling.race {source : String} (h : Assembling source said result)
    (rest : List (Exchange ℓ)) :
    Frame.race (Hurdle.outcome? view (said ++ rest)) programHurdles =
      some (result.map fun _ => ()) := by
  show Frame.race _ ([.shader .vertex, .compilation .vertex] ++
    ([.shader .fragment, .compilation .fragment] ++ [.program, .linking])) = _
  cases h with
  | noVertex vertexStage =>
      exact race_append_of_error (vertexStage.race [] rest (List.forall_mem_nil _))
  | @noFragment said said' vertex e vertexStage fragmentStage =>
      have hvertex (rest : List (Exchange ℓ)) : Frame.race (Hurdle.outcome? view (said ++ rest))
          [.shader .vertex, .compilation .vertex] = some (.ok ()) :=
        vertexStage.race [] rest (List.forall_mem_nil _)
      have silent : ∀ e ∈ said, e.shader? .fragment = none :=
        fun e he => (vertexStage.silent e he).1 .fragment (by decide)
      rw [List.append_assoc, List.append_assoc, race_append_of_ok (hvertex _)]
      exact race_append_of_error (fragmentStage.race said _ silent)
  | @joined said said' said'' vertex fragment result vertexStage fragmentStage link =>
      have hvertex (rest : List (Exchange ℓ)) : Frame.race (Hurdle.outcome? view (said ++ rest))
          [.shader .vertex, .compilation .vertex] = some (.ok ()) :=
        vertexStage.race [] rest (List.forall_mem_nil _)
      have silent : ∀ e ∈ said, e.shader? .fragment = none :=
        fun e he => (vertexStage.silent e he).1 .fragment (by decide)
      have hfragment (rest : List (Exchange ℓ)) :
          Frame.race (Hurdle.outcome? view (said ++ (said' ++ rest)))
            [.shader .fragment, .compilation .fragment] = some (.ok ()) :=
        fragmentStage.race said rest silent
      have silent' : ∀ e ∈ said ++ said', e.program? = none :=
        List.forall_mem_append.mpr ⟨fun e he => (vertexStage.silent e he).2.1,
          fun e he => (fragmentStage.silent e he).2.1⟩
      rw [List.append_assoc, List.append_assoc, List.append_assoc, race_append_of_ok (hvertex _),
        race_append_of_ok (hfragment _), ← List.append_assoc said]
      exact link.race (said ++ said') _ silent'

variable {rectangle : Option Handle} {source : String} {capture : Bool}
  {outcome : Except Canvas.Failure Pixels × Option Handle}

theorem unshown_feeding (view : View) (program buffer : Handle) (position : Option Nat)
    (resolution time : Option ℓ) :
    ∀ e ∈ feeding view program buffer position resolution time, e.shown? = none := by
  cases position <;> cases resolution <;> cases time <;> simp [feeding, Exchange.shown?]

theorem Holding.unshown {buffer : Handle} (h : Holding rectangle said buffer) :
    ∀ e ∈ said, e.shown? = none := by
  cases h <;> simp [Exchange.shown?]

theorem Painting.unshown {pixels : Pixels} (h : Painting view capture said pixels) :
    ∀ e ∈ said, e.shown? = none := by
  cases h <;> simp [strokes, Exchange.shown?]

/-- **An attempt comes to what its hurdles come to.**  The two sides come from different ends: the
right one is the result, and the left one is read off the answers alone. -/
theorem Attempting.race (h : Attempting view rectangle source capture said outcome) :
    Frame.race (Hurdle.outcome? view said) (hurdles rectangle) =
      some (outcome.1.map fun _ => ()) := by
  have hcontext {said : List (Exchange ℓ)} (context : view.hasContext = true) :
      Hurdle.context.outcome? view said = some (.ok ()) := by
    rw [Hurdle.outcome?, if_pos context]
  cases h with
  | noContext lacking =>
      refine race_cons_of_ne ?_ |>.trans ?_ <;> simp [Hurdle.outcome?, lacking, Except.map]
  | noProgram context failed =>
      have hprogram : Frame.race (Hurdle.outcome? view (_ ++ [])) programHurdles = _ :=
        failed.race []
      rw [List.append_nil] at hprogram
      rw [hurdles, race_cons_of_ok (hcontext context)]
      exact race_append_of_error hprogram
  | @noRectangle said program context assembled lacking reason =>
      have hrectangle : Hurdle.rectangle.outcome? view
          (said ++ [told .createBuffer (.error reason), told (.deleteProgram program) ()]) =
            some (.error (.allocation .rectangle reason)) := by
        rw [Hurdle.outcome?, findSome?_append_of_silent fun e he => (assembled.silent e he).1]
        rfl
      rw [hurdles, race_cons_of_ok (hcontext context), race_append_of_ok (assembled.race _),
        if_pos (by rw [lacking]; rfl), List.singleton_append,
        race_cons_of_ne (by rw [hrectangle]; nofun), hrectangle]
      rfl
  | @finished said said' said'' program buffer pixels context assembled holding position resolution
      time painting shown =>
      have hrectangle (rest : List (Exchange ℓ)) : Frame.race
          (Hurdle.outcome? view (said ++ (said' ++ rest)))
          (if rectangle.isNone then [.rectangle] else []) = some (.ok ()) := by
        cases holding with
        | held => rfl
        | made =>
            refine race_cons_of_ok ?_
            rw [Hurdle.outcome?, findSome?_append_of_silent fun e he => (assembled.silent e he).1]
            rfl
      -- the frame is shown at the very end, and nothing in front of that asks for it
      have hshown : Hurdle.showing.outcome? view (said ++ (said' ++
          (feeding view program buffer position resolution time ++ (said'' ++
            [told (.deleteProgram program) (), ⟨.present, shown⟩])))) = some shown := by
        rw [Hurdle.outcome?, findSome?_append_of_silent fun e he => (assembled.silent e he).2,
          findSome?_append_of_silent holding.unshown,
          findSome?_append_of_silent (unshown_feeding _ _ _ _ _ _),
          findSome?_append_of_silent painting.unshown]
        rfl
      rw [hurdles, race_cons_of_ok (hcontext context), race_append_of_ok (assembled.race _),
        race_append_of_ok (hrectangle _)]
      cases shown with
      | ok _ => exact race_cons_of_ok hshown
      | error e => exact (race_cons_of_ne (by rw [hshown]; nofun)).trans hshown

end

/-! ## Clearing up -/

/-- A conversation that only clears up after its one failing answer.  The answers in front are asked
to be good and the requests behind to clear up, whatever is answered to these. -/
def Halts (said : List (Exchange ℓ)) : Prop :=
  ∃ before x after, said = before ++ x :: after ∧ (∀ y ∈ before, y.failed = false) ∧ x.failed ∧
    ∀ y ∈ after, y.clears

section

variable {said : List (Exchange ℓ)}

/-- What went well in front of such a conversation, and what clears up behind it, belongs to it. -/
theorem Halts.extend (h : Halts said) {front rest : List (Exchange ℓ)}
    (good : ∀ y ∈ front, y.failed = false) (clears : ∀ y ∈ rest, y.clears) :
    Halts (front ++ (said ++ rest)) := by
  obtain ⟨before, x, after, rfl, hbefore, hx, hafter⟩ := h
  exact ⟨front ++ before, x, after ++ rest, by simp, List.forall_mem_append.mpr ⟨good, hbefore⟩, hx,
    List.forall_mem_append.mpr ⟨hafter, clears⟩⟩

variable {stage : Stage} {source : String} {vertex fragment : Handle}

theorem Compiling.halts {e : Canvas.Failure} (h : Compiling stage source said (.error e)) :
    Halts said := by
  cases h with
  | refused reason => exact ⟨[], _, [], rfl, by simp, rfl, by simp⟩
  | rejected shader log =>
      exact ⟨[told (.createShader stage) (.ok shader), told (.shaderSource shader source) (),
        told (.compileShader shader) ()], _, _, rfl, by simp [Exchange.failed], rfl,
        by simp [Exchange.clears]⟩

theorem Compiling.good {shader : Handle} (h : Compiling stage source said (.ok shader)) :
    ∀ y ∈ said, y.failed = false := by
  cases h
  simp [Exchange.failed]

theorem Linking.halts {e : Canvas.Failure} (h : Linking vertex fragment said (.error e)) :
    Halts said := by
  cases h with
  | refused reason => exact ⟨[], _, [], rfl, by simp, rfl, by simp⟩
  | rejected program log =>
      exact ⟨joining program vertex fragment, _, _, rfl, by simp [joining, Exchange.failed], rfl,
        by simp [Exchange.clears]⟩

theorem Linking.good {program : Handle} (h : Linking vertex fragment said (.ok program)) :
    ∀ y ∈ said, y.failed = false := by
  cases h
  simp [joining, Exchange.failed]

theorem Assembling.halts {e : Canvas.Failure} (h : Assembling source said (.error e)) :
    Halts said := by
  cases h with
  | noVertex vertexStage => exact vertexStage.halts
  | noFragment vertexStage fragmentStage =>
      exact fragmentStage.halts.extend vertexStage.good (by simp [Exchange.clears])
  | joined vertexStage fragmentStage link =>
      rw [← List.append_assoc]
      exact link.halts.extend (List.forall_mem_append.mpr ⟨vertexStage.good, fragmentStage.good⟩)
        (by simp [Exchange.clears])

theorem Assembling.good {program : Handle} (h : Assembling source said (.ok program)) :
    ∀ y ∈ said, y.failed = false := by
  cases h with
  | joined vertexStage fragmentStage link =>
      simp only [List.forall_mem_append]
      exact ⟨vertexStage.good, fragmentStage.good, link.good, by simp [Exchange.failed]⟩

theorem Holding.good {rectangle : Option Handle} {buffer : Handle}
    (h : Holding rectangle said buffer) : ∀ y ∈ said, y.failed = false := by
  cases h <;> simp [Exchange.failed]

theorem good_feeding (view : View) (program buffer : Handle) (position : Option Nat)
    (resolution time : Option ℓ) :
    ∀ y ∈ feeding view program buffer position resolution time, y.failed = false := by
  cases position <;> cases resolution <;> cases time <;> simp [feeding, Exchange.failed]

theorem Painting.good {view : View} {capture : Bool} {pixels : Pixels}
    (h : Painting view capture said pixels) : ∀ y ∈ said, y.failed = false := by
  cases h <;> simp [strokes, Exchange.failed]

/-- **An attempt that fails only clears up after the answer that it fails at**, and without a
context it says nothing.  Failing without a context is apart from the rest, since there is no answer
then that anything could stop at. -/
theorem Attempting.halts {view : View} {rectangle : Option Handle} {capture : Bool}
    {outcome : Except Canvas.Failure Pixels × Option Handle} {e : Canvas.Failure}
    (h : Attempting view rectangle source capture said outcome) (hfailed : outcome.1 = .error e) :
    (view.hasContext = false ∧ said = []) ∨ Halts said := by
  cases h with
  | noContext lacking => exact .inl ⟨lacking, rfl⟩
  | noProgram context failed =>
      cases hfailed
      exact .inr failed.halts
  | noRectangle context assembled lacking reason =>
      exact .inr ⟨_, _, _, rfl, assembled.good, rfl, by simp [Exchange.clears]⟩
  | @finished said said' said'' program buffer pixels context assembled holding position resolution
      time painting shown =>
      -- the last answer is the one that fails
      have hshown : Exchange.failed (ℓ := ℓ) ⟨.present, shown⟩ := by
        cases shown with
        | ok _ => cases hfailed
        | error e => rfl
      refine .inr ⟨said ++ (said' ++ (feeding view program buffer position resolution time ++
        (said'' ++ [told (.deleteProgram program) ()]))), _, [], by simp, ?_, hshown, by simp⟩
      simp only [List.forall_mem_append]
      exact ⟨assembled.good, holding.good, good_feeding _ _ _ _ _ _, painting.good,
        by simp [Exchange.failed]⟩

end

end Frame

/-! ## Canvases -/

namespace Canvas

open ShaderSketch.Frame

/-- **The first failure decides.**  On every surface and every canvas, whatever the driver answers,
an attempt succeeds just if it took all its hurdles; it fails with what made the first of them fail
that it did not take, and from the failing answer on it only reads logs, detaches and deletes.  No
answer about the place of an attribute or a uniform is among the hurdles. -/
theorem first_failure_decides (s : Surface σ ℓ) (source : String) (capture : Bool) (c : Canvas σ) :
    let said := c.said s source capture
    let result := (c.attempt s source capture).1
    let outcome? := Hurdle.outcome? (s.view c.surface) said
    ((∃ pixels, result = .ok pixels) ↔ ∀ h ∈ hurdles c.rectangle, outcome? h = some (.ok ())) ∧
      (∀ e, result = .error e ↔ ∃ before h after, hurdles c.rectangle = before ++ h :: after ∧
        (∀ h' ∈ before, outcome? h' = some (.ok ())) ∧ outcome? h = some (.error e)) ∧
      ∀ e, result = .error e →
        ((s.view c.surface).hasContext = false ∧ said = []) ∨ Halts said := by
  intro said result outcome?
  have hattempt : Attempting (s.view c.surface) c.rectangle source capture said
      (result, (c.attempt s source capture).2.rectangle) := c.attempting_said s source capture
  have hrace : race outcome? (hurdles c.rectangle) = some (result.map fun _ => ()) := hattempt.race
  refine ⟨?_, fun e => ?_, fun e hfailed => hattempt.halts hfailed⟩
  · rw [← race_eq_ok, hrace]
    cases result <;> simp [Except.map]
  · rw [← race_eq_error, hrace]
    cases result <;> simp [Except.map]

/-- A driver that finds a fragment stage wrong, and would not link a program either. -/
def grudging : Gl.Script where
  compileStatus
    | .fragment => some false
    | .vertex => none
  compileLog _ := some "0:1: no"
  linkStatus := some false

/-- A canvas on a surface that has no room for programs and buffers, and cannot show a frame. -/
def hindered : Canvas MemorySurface where
  surface :=
    { width := 2, height := 2, gl := { barsPrograms := true, barsBuffers := true }
      nextFailure := some "lost" }

theorem first_failure_decides_grudging :
    let s := MemorySurface.scripted grudging
    let said := hindered.said s "void main() {}" false
    let outcome? := Hurdle.outcome? (s.view hindered.surface) said
    (hindered.attempt s "void main() {}" false).1 =
        .error (.compilation .fragment "0:1: no") ∧
      (∃ before h after, hurdles none = before ++ h :: after ∧
        (∀ h' ∈ before, outcome? h' = some (.ok ())) ∧
          outcome? h = some (.error (.compilation .fragment "0:1: no"))) ∧
      (((s.view hindered.surface).hasContext = false ∧ said = []) ∨ Halts said) := by
  intro s said outcome?
  have hresult : (hindered.attempt s "void main() {}" false).1 =
      .error (.compilation .fragment "0:1: no") := by
    decide +kernel
  obtain ⟨-, hfirst, hhalts⟩ := first_failure_decides s "void main() {}" false hindered
  exact ⟨hresult, (hfirst _).mp hresult, hhalts _ hresult⟩

end Canvas

end ShaderSketch
