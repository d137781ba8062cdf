import Mathlib.Logic.Function.Basic
import ShaderSketch.Proofs.Commands
import ShaderSketch.Proofs.Lists

/-!
# How the library is wired when it draws

A graphics library draws with whatever is current and bound, and with what was set before, so that a
frame depends on everything that was done since the library was started.  This module follows that
state command by command, and finds it the same at every draw.

## Main definitions

* `Gl.Standing` — how far a program has come in a step
* `Gl.Wiring`, `Gl.Wiring.after`, `Gl.Wiring.replay` — what the next draw depends on
* `Gl.Wiring.begin` — the state at the start of a step, in which nothing was set yet
* `Gl.Wiring.Keeps` — the buffer of a canvas is live, and has the rectangle in it
* `Gl.Wiring.Ready` — all is set for a frame

## Main results

* `Frame.Attempting.keeps` : every attempt leaves the rectangle in the buffer
* `Frame.Attempting.ready` : when an attempt draws, all is set for its frame
* `Canvas.ready_at_draws` : all is set at every draw in every life of a canvas

## Design notes

Bindings and buffers outlive a step; programs, pointers, uniforms, the viewport and the clear are
counted from the start of the step, so that nothing can be owed to an earlier one.
-/

namespace ShaderSketch

open Surface Gl

/-! ## The state -/

namespace Gl

/-- Whether a command makes, fills or deletes a buffer. -/
def Command.stores : Command → Bool
  | .genBuffers _ | .bufferData _ | .deleteBuffers _ => true
  | _ => false

/-- How far a program has come: it was created, then linked, then its verdict was asked for.  A
program that was only created, or only linked, may not be drawn with, and this is where it shows. -/
inductive Standing
  | created
  | linked
  | judged
  deriving Repr, DecidableEq

/-- A pointer that was set for an attribute: how many components it has, and which buffer it reads,
the one that was bound. -/
structure Pointer where
  index : Nat
  components : Int
  buffer : Option Handle
  deriving Repr, DecidableEq

/-- A uniform that was set, and for which program, the one that was current. -/
structure Uniform where
  program : Option Handle
  location : Int
  values : List Binary
  deriving Repr, DecidableEq

/-- What a draw depends on.  The program that is current, the buffer that is bound, the live buffers
and what was uploaded to each since it was created; and since the step began, how far each program
has come, the attributes that were enabled and pointed, the uniforms, the viewport, and the colour
that the frame was cleared to after the last draw.  Everything here is put back at the beginning of
a step, apart from what lasts in a library from one step to the next: the current program, the bound
buffer, and the buffers with what is in them. -/
structure Wiring where
  current : Option Handle := none
  bound : Option Handle := none
  buffers : List Handle := []
  uploads : Handle → List (List UInt8) := fun _ => []
  color : Option Color := none
  standing : Handle → Option Standing := fun _ => none
  enabled : List Nat := []
  pointers : List Pointer := []
  uniforms : List Uniform := []
  viewport : Option (Int × Int) := none
  cleared : Option Color := none

namespace Wiring

/-- The object that a name stands for; nothing has the name 0. -/
def object? (h : Handle) : Option Handle := if h = 0 then none else some h

theorem object?_of_ne {h : Handle} (hne : h ≠ 0) : object? h = some h := if_neg hne

/-- The state after a command. -/
def after (g : Wiring) : Command → Wiring
  | .createProgram p => { g with standing := Function.update g.standing p (some .created) }
  | .linkProgram p =>
    { g with standing := Function.update g.standing p ((g.standing p).map fun _ => .linked) }
  | .getProgram p .linkStatus =>
    { g with
      standing := Function.update g.standing p
        ((g.standing p).map fun s => if s = .linked then .judged else s) }
  | .deleteProgram p => { g with standing := Function.update g.standing p none }
  | .useProgram p => { g with current := object? p }
  | .genBuffers b =>
    { g with buffers := b :: g.buffers, uploads := Function.update g.uploads b [] }
  | .deleteBuffers b =>
    { g with
      buffers := g.buffers.filter (· ≠ b)
      bound := if g.bound = some b then none else g.bound }
  | .bindBuffer b => { g with bound := object? b }
  | .bufferData data =>
    match g.bound with
    | some b => { g with uploads := Function.update g.uploads b (g.uploads b ++ [data]) }
    | none => g
  | .enableVertexAttribArray i => { g with enabled := g.enabled ++ [i] }
  | .vertexAttribPointer i components =>
    { g with pointers := g.pointers ++ [⟨i, components, g.bound⟩] }
  | .uniform2f location x y =>
    { g with uniforms := g.uniforms ++ [⟨g.current, location, [x, y]⟩] }
  | .uniform1f location value =>
    { g with uniforms := g.uniforms ++ [⟨g.current, location, [value]⟩] }
  | .viewport width height => { g with viewport := some (width, height) }
  | .clearColor color => { g with color := some color }
  | .clear => { g with cleared := g.color }
  | .drawArrays _ _ => { g with cleared := none }
  | _ => g

/-- The state after commands. -/
def replay (g : Wiring) (commands : List Command) : Wiring := commands.foldl after g

/-- The state at the start of a step: bindings and buffers are as they were left, and nothing was
set yet. -/
def begin (g : Wiring) : Wiring :=
  { current := g.current, bound := g.bound, buffers := g.buffers, uploads := g.uploads }

@[simp] theorem replay_nil (g : Wiring) : g.replay [] = g := rfl

@[simp] theorem replay_cons (g : Wiring) (c : Command) (commands : List Command) :
    g.replay (c :: commands) = (g.after c).replay commands := rfl

theorem replay_append (g : Wiring) (commands commands' : List Command) :
    g.replay (commands ++ commands') = (g.replay commands).replay commands' :=
  List.foldl_append

/-- The buffer of a canvas, if it has one, is live, and the rectangle is all that was ever uploaded
to it. -/
def Keeps (g : Wiring) (rectangle : Option Handle) : Prop :=
  ∀ b ∈ rectangle, b ≠ 0 ∧ b ∈ g.buffers ∧ g.uploads b = [Shader.cornerBytes]

theorem keeps_none (g : Wiring) : g.Keeps none := nofun

/-- A command that is not about buffers leaves them as they are. -/
theorem buffers_after {g : Wiring} {c : Command} (h : c.stores = false) :
    (g.after c).buffers = g.buffers ∧ (g.after c).uploads = g.uploads := by
  cases c with
  | getProgram p query => cases query <;> exact ⟨rfl, rfl⟩
  | genBuffers | bufferData | deleteBuffers => cases h
  | _ => exact ⟨rfl, rfl⟩

/-- Commands that are not about buffers keep what is in them. -/
theorem Keeps.replay {g : Wiring} {rectangle : Option Handle} {commands : List Command}
    (keeps : g.Keeps rectangle) (h : commands.any (·.stores) = false) :
    (g.replay commands).Keeps rectangle := by
  induction commands generalizing g with
  | nil => exact keeps
  | cons c commands ih =>
      rw [List.any_cons, Bool.or_eq_false_iff] at h
      refine ih (fun b hb => ?_) h.2
      obtain ⟨hbuffers, huploads⟩ := buffers_after (g := g) h.1
      rw [hbuffers, huploads]
      exact keeps b hb

/-- All is set for a frame.  The program was created, linked and found good since the step began,
and was not deleted; the buffer is bound, live, and has nothing but the rectangle in it; and exactly
the places that the library reports are fed.  It leaves no room for what an earlier frame did: but
for the buffer and what is in it, all of this was set since the step began. -/
structure Ready (s : Native.Script) (view : View) (g : Wiring) (program buffer : Handle) :
    Prop where
  current : g.current = some program
  judged : g.standing program = some .judged
  good : s.linkStatus = 1
  bound : g.bound = some buffer
  live : buffer ∈ g.buffers
  uploads : g.uploads buffer = [Shader.cornerBytes]
  enabled : g.enabled = ((Native.location? (s.attribs Shader.position)).map Int.toNat).toList
  pointers : g.pointers = g.enabled.map fun i => ⟨i, 2, some buffer⟩
  uniforms : g.uniforms =
    ((Native.location? (s.uniforms Shader.resolution)).toList.map fun l =>
      ⟨some program, l,
        [Binary.ofNat .single view.width.toNat, Binary.ofNat .single view.height.toNat]⟩) ++
    ((Native.location? (s.uniforms Shader.time)).toList.map fun l =>
      ⟨some program, l, [view.seconds]⟩)
  viewport : g.viewport = some (Frame.side view.width, Frame.side view.height)
  cleared : g.cleared = some Frame.background

end Wiring

end Gl

/-! ## Where the library draws -/

/-- Whether a command draws. -/
def Gl.Command.draws (c : Command) : Prop := ∃ first count, c = .drawArrays first count

/-- A conversation in which nothing is to be drawn draws nothing. -/
theorem not_draws_of_silent {said : List (Exchange Int)} (h : ∀ e ∈ said, e.draws = false) :
    ∀ c ∈ said.flatMap Exchange.commands, ¬c.draws := by
  rintro c hc ⟨first, count, rfl⟩
  obtain ⟨e, he, hmem⟩ := List.mem_flatMap.mp hc
  exact Bool.false_ne_true ((h e he).symm.trans (Exchange.draws_of_mem hmem))

/-! ## Attempts -/

namespace Frame

open Native Wiring

variable {s : Native.Script} {said : List (Exchange Int)}

theorem Compiling.wiring {stage : Stage} {source : String}
    {result : Except Canvas.Failure Handle} (h : Compiling stage source said result) (g : Wiring) :
    g.replay (said.flatMap Exchange.commands) = g := by
  cases h <;> rfl

/-- Linking changes nothing but the standing of programs; a program that comes of it was judged, and
found good. -/
theorem Linking.wiring {vertex fragment : Handle} {result : Except Canvas.Failure Handle}
    (h : Linking vertex fragment said result) (answers : ∀ e ∈ said, s.Answers e) (g : Wiring) :
    ∃ standing, g.replay (said.flatMap Exchange.commands) = { g with standing } ∧
      ∀ p, result = .ok p → standing p = some .judged ∧ s.linkStatus = 1 ∧ p ≠ 0 := by
  cases h with
  | refused reason => exact ⟨_, rfl, fun _ hp => by cases hp⟩
  | accepted program =>
      refine ⟨_, rfl, ?_⟩
      rintro p ⟨⟩
      obtain ⟨_, ⟨⟩, hne⟩ := answers (told .createProgram (.ok program)) (by simp [joining])
      have hverdict : true = decide (s.linkStatus = 1) :=
        answers (told (.linkStatus program) true) (by simp)
      exact ⟨by simp [Wiring.after], by simpa using hverdict.symm, hne⟩
  | rejected program log => exact ⟨_, rfl, fun _ hp => by cases hp⟩

/-- Making a program changes nothing but the standing of programs. -/
theorem Assembling.wiring {source : String} {result : Except Canvas.Failure Handle}
    (h : Assembling source said result) (answers : ∀ e ∈ said, s.Answers e) (g : Wiring) :
    ∃ standing, g.replay (said.flatMap Exchange.commands) = { g with standing } ∧
      ∀ p, result = .ok p → standing p = some .judged ∧ s.linkStatus = 1 ∧ p ≠ 0 := by
  cases h with
  | noVertex vertexStage => exact ⟨g.standing, vertexStage.wiring g, nofun⟩
  | noFragment vertexStage fragmentStage =>
      refine ⟨g.standing, ?_, nofun⟩
      simp only [List.flatMap_append, replay_append, vertexStage.wiring, fragmentStage.wiring]
      rfl
  | joined vertexStage fragmentStage link =>
      simp only [List.forall_mem_append] at answers
      obtain ⟨standing, hreplay, hresult⟩ := link.wiring answers.2.2.1 g
      refine ⟨standing, ?_, hresult⟩
      simp only [List.flatMap_append, replay_append, vertexStage.wiring, fragmentStage.wiring,
        hreplay]
      rfl

/-- Having the rectangle changes nothing but buffers, and it is in the buffer afterwards. -/
theorem Holding.wiring {rectangle : Option Handle} {buffer : Handle}
    (h : Holding rectangle said buffer) (answers : ∀ e ∈ said, s.Answers e) {g : Wiring}
    (keeps : g.Keeps rectangle) :
    ∃ bound buffers uploads,
      g.replay (said.flatMap Exchange.commands) = { g with bound, buffers, uploads } ∧
      Keeps { g with bound, buffers, uploads } (some buffer) := by
  cases h with
  | held => exact ⟨g.bound, g.buffers, g.uploads, rfl, keeps⟩
  | made =>
      obtain ⟨_, ⟨⟩, hne⟩ := answers (told .createBuffer (.ok buffer)) List.mem_cons_self
      refine ⟨some buffer, buffer :: g.buffers,
        Function.update g.uploads buffer [Shader.cornerBytes], ?_, ?_⟩
      · simp only [List.flatMap_cons, Exchange.commands, List.flatMap_nil, List.append_nil,
          List.cons_append, List.nil_append, replay_cons, replay_nil, Wiring.after,
          object?_of_ne hne, Function.update_self, Function.update_idem]
      · rintro b ⟨⟩
        exact ⟨hne, List.mem_cons_self, Function.update_self ..⟩

/-- Feeding a program makes it current, binds the buffer, and sets what the places are fed. -/
theorem feeding_wiring {view : View} {program buffer : Handle} (hprogram : program ≠ 0)
    (hbuffer : buffer ≠ 0) (position : Option Nat) (resolution time : Option Int) (g : Wiring) :
    g.replay ((feeding view program buffer position resolution time).flatMap Exchange.commands) =
      { g with
        current := some program
        bound := some buffer
        enabled := g.enabled ++ position.toList
        pointers := g.pointers ++
          position.toList.map fun i => ⟨i, Shader.cornerSize, some buffer⟩
        uniforms := g.uniforms ++
          ((resolution.toList.map fun l =>
            ⟨some program, l,
              [Binary.ofNat .single view.width.toNat, Binary.ofNat .single view.height.toNat]⟩) ++
          (time.toList.map fun l => ⟨some program, l, [view.seconds]⟩)) } := by
  cases position <;> cases resolution <;> cases time <;>
    simp [feeding, Exchange.commands, Wiring.after, object?_of_ne hprogram, object?_of_ne hbuffer]

/-- What a driver answers about the places during feeding. -/
theorem feeding_answers {view : View} {program buffer : Handle} {position : Option Nat}
    {resolution time : Option Int}
    (answers : ∀ e ∈ feeding view program buffer position resolution time, s.Answers e) :
    position = (location? (s.attribs Shader.position)).map Int.toNat ∧
      resolution = location? (s.uniforms Shader.resolution) ∧
      time = location? (s.uniforms Shader.time) := by
  refine ⟨answers (told (.attribLocation program Shader.position) position) ?_,
    answers (told (.uniformLocation program Shader.resolution) resolution) ?_,
    answers (told (.uniformLocation program Shader.time) time) ?_⟩ <;>
  simp [feeding]

/-- A frame is cleared, then drawn once. -/
theorem Painting.drawn {ℓ : Type} {view : View} {capture : Bool} {said : List (Exchange ℓ)}
    {pixels : Pixels} (h : Painting view capture said pixels) :
    ∃ rest, said = [told (.viewport (side view.width) (side view.height)) (),
        told (.clearColor background) ()] ++
        told (.drawTriangleStrip 0 Shader.corners.length) () :: rest ∧
      ∀ e ∈ rest, e.draws = false := by
  cases h with
  | unread => exact ⟨[], rfl, List.forall_mem_nil _⟩
  | read pixels => exact ⟨[_], rfl, by simp [Exchange.draws]⟩

/-- Feeding and painting are not about buffers. -/
theorem feeding_stores (view : View) (program buffer : Handle) (position : Option Nat)
    (resolution time : Option Int) :
    ((feeding view program buffer position resolution time).flatMap Exchange.commands).any
      (·.stores) = false := by
  cases position <;> cases resolution <;> cases time <;> rfl

theorem Painting.stores {view : View} {capture : Bool} {pixels : Pixels}
    (h : Painting view capture said pixels) :
    (said.flatMap Exchange.commands).any (·.stores) = false := by
  cases h <;> rfl

variable {view : View} {rectangle : Option Handle} {source : String} {capture : Bool}
  {outcome : Except Canvas.Failure Pixels × Option Handle}

/-- **Every attempt leaves the rectangle in the buffer.**  The buffer is filled when it is made and
never again, so that this has to be carried from attempt to attempt. -/
theorem Attempting.keeps (h : Attempting view rectangle source capture said outcome)
    (answers : ∀ e ∈ said, s.Answers e) {g : Wiring} (keeps : g.Keeps rectangle) :
    (g.replay (said.flatMap Exchange.commands)).Keeps outcome.2 := by
  cases h with
  | noContext => exact keeps
  | noProgram _ failed =>
      obtain ⟨standing, hreplay, -⟩ := failed.wiring answers g
      rw [hreplay]
      exact keeps
  | noRectangle => exact keeps_none _
  | finished _ assembled holding position resolution time painting shown =>
      simp only [List.forall_mem_append] at answers
      obtain ⟨hassembled, hholding, -⟩ := answers
      obtain ⟨standing, hbuilt, -⟩ := assembled.wiring hassembled g
      obtain ⟨bound, buffers, uploads, hheld, hkeeps⟩ :=
        holding.wiring hholding (g := { g with standing }) keeps
      simp only [List.flatMap_append, replay_append, hbuilt, hheld]
      -- what comes after the buffer is not about buffers
      exact ((hkeeps.replay (feeding_stores ..)).replay painting.stores).replay rfl

theorem Holding.silent {ℓ : Type} {rectangle : Option Handle} {said : List (Exchange ℓ)}
    {buffer : Handle} (h : Holding rectangle said buffer) : ∀ e ∈ said, e.draws = false := by
  cases h <;> simp [Exchange.draws]

theorem feeding_silent {ℓ : Type} (view : View) (program buffer : Handle) (position : Option Nat)
    (resolution time : Option ℓ) :
    ∀ e ∈ feeding view program buffer position resolution time, e.draws = false := by
  cases position <;> cases resolution <;> cases time <;> simp [feeding, Exchange.draws]

/-- What is said before the draw, when there is one. -/
def setting {ℓ : Type} (view : View) (made held : List (Exchange ℓ)) (program buffer : Handle)
    (position : Option Nat) (resolution time : Option ℓ) : List (Exchange ℓ) :=
  made ++ (held ++ (feeding view program buffer position resolution time ++
    [told (.viewport (side view.width) (side view.height)) (), told (.clearColor background) ()]))

/-- What is said before the draw draws nothing. -/
theorem setting_silent {ℓ : Type} {view : View} {rectangle : Option Handle} {source : String}
    {made held : List (Exchange ℓ)} {program buffer : Handle} (position : Option Nat)
    (resolution time : Option ℓ) (assembled : Assembling source made (.ok program))
    (holding : Holding rectangle held buffer) :
    ∀ e ∈ setting view made held program buffer position resolution time, e.draws = false := by
  simp only [setting, List.forall_mem_append]
  refine ⟨fun e he => ?_, holding.silent, feeding_silent _ _ _ _ _ _, by simp [Exchange.draws]⟩
  exact Exchange.draws_of_builds (assembled.builds e he)

/-- Before the draw, all is set for the frame. -/
theorem ready_setting {made held : List (Exchange Int)} {program buffer : Handle}
    {position : Option Nat} {resolution time : Option Int}
    (assembled : Assembling source made (.ok program)) (holding : Holding rectangle held buffer)
    (answers : ∀ e ∈ setting view made held program buffer position resolution time, s.Answers e)
    {g : Wiring} (keeps : g.Keeps rectangle) :
    Ready s view (g.begin.replay
      ((setting view made held program buffer position resolution time).flatMap
        Exchange.commands)) program buffer := by
  simp only [setting, List.forall_mem_append] at answers
  obtain ⟨hmade, hheld, hfeeding, -⟩ := answers
  obtain ⟨standing, hbuilt, hprogram⟩ := assembled.wiring hmade g.begin
  obtain ⟨hjudged, hgood, hprogram⟩ := hprogram program rfl
  obtain ⟨bound, buffers, uploads, hstored, hkeeps⟩ :=
    holding.wiring hheld (g := { g.begin with standing }) keeps
  obtain ⟨hbuffer, hlive, huploads⟩ := hkeeps buffer rfl
  obtain ⟨rfl, rfl, rfl⟩ := feeding_answers hfeeding
  simp only [setting, List.flatMap_append, replay_append, hbuilt, hstored,
    feeding_wiring hprogram hbuffer]
  -- the step began with nothing set, so that what is set now was set in it
  exact ⟨rfl, hjudged, hgood, rfl, hlive, huploads, rfl, rfl, rfl, rfl, rfl⟩

/-- **When an attempt draws, all is set for its frame**, whatever it found.  What the attempt found
need not be known, apart from the buffer: a frame that relied on anything else would need it here.
-/
theorem Attempting.ready (h : Attempting view rectangle source capture said outcome)
    (answers : ∀ e ∈ said, s.Answers e) {g : Wiring} (keeps : g.Keeps rectangle)
    {pre post : List Command} {first count : Int}
    (hdraw : said.flatMap Exchange.commands = pre ++ .drawArrays first count :: post) :
    ∃ program buffer, outcome.2 = some buffer ∧ first = 0 ∧ count = Shader.corners.length ∧
      Ready s view (g.begin.replay pre) program buffer := by
  have hmem : .drawArrays first count ∈ said.flatMap Exchange.commands := by simp [hdraw]
  have hdraws : (Command.drawArrays first count).draws := ⟨first, count, rfl⟩
  cases h with
  | noContext => cases hmem
  | noProgram _ failed =>
      refine absurd hdraws (not_draws_of_silent (fun e he => ?_) _ hmem)
      exact Exchange.draws_of_builds (failed.builds e he)
  | noRectangle _ assembled =>
      refine absurd hdraws (not_draws_of_silent (List.forall_mem_append.mpr ⟨fun e he => ?_, ?_⟩) _
        hmem)
      · exact Exchange.draws_of_builds (assembled.builds e he)
      · simp [Exchange.draws]
  | @finished made held painted program buffer pixels _ assembled holding position resolution time
      painting shown =>
      obtain ⟨rest, rfl, hrest⟩ := painting.drawn
      let before := setting view made held program buffer position resolution time
      let ending := rest ++ [told (.deleteProgram program) (), ⟨.present, shown⟩]
      have hcommands : pre ++ .drawArrays first count :: post =
          before.flatMap Exchange.commands ++
            .drawArrays 0 Shader.corners.length :: ending.flatMap Exchange.commands := by
        rw [← hdraw]
        simp [before, ending, setting, Exchange.commands]
      have hbefore : ∀ e ∈ before, e.draws = false :=
        setting_silent position resolution time assembled holding
      have hending : ∀ e ∈ ending, e.draws = false :=
        List.forall_mem_append.mpr ⟨hrest, by simp [Exchange.draws]⟩
      obtain ⟨rfl, heq⟩ := eq_of_append_cons_eq hdraws (not_draws_of_silent hbefore)
        (not_draws_of_silent hending) hcommands
      obtain ⟨rfl, rfl⟩ := Command.drawArrays.inj heq
      refine ⟨program, buffer, rfl, rfl, rfl,
        ready_setting assembled holding (fun e he => answers e ?_) keeps⟩
      simp only [setting, List.mem_append] at he ⊢
      tauto

end Frame

/-! ## Canvases -/

namespace Canvas

open NativeSurface

/-- What happens to a shared surface tells the library nothing that draws or is about buffers. -/
theorem happen_commands (what : Incident) (m : NativeSurface) :
    ∃ added, (shared.happen what m).gl.commands = m.gl.commands ++ added ∧
      added.any (·.stores) = false ∧ ∀ c ∈ added, ¬c.draws := by
  cases what with
  | change what =>
      refine ⟨[], ?_, rfl, List.forall_mem_nil _⟩
      cases what <;> exact (List.append_nil _).symm
  | unbind =>
      refine ⟨[.useProgram 0, .bindBuffer 0], List.append_assoc .., rfl, ?_⟩
      simp [Command.draws]

/-- **In every life, the buffer of a canvas is live and has the rectangle in it.**  Others may
unbind what they like in between, but nobody else uploads to the buffer or deletes it. -/
theorem keeps_steps (x : NativeSurface) (life : List (Step Incident)) :
    let c := ({ surface := x } : Canvas NativeSurface).steps shared life
    (Wiring.replay {} c.surface.gl.commands).Keeps c.rectangle := by
  refine steps_induction (w := shared)
    (P := fun c => (Wiring.replay {} c.surface.gl.commands).Keeps c.rectangle) ?_ ?_ ?_
    (Wiring.keeps_none _) life
  · intro c source capture hkeeps
    obtain ⟨said, result, hattempting, hheard⟩ := attempt_heard source capture c
    change (Wiring.replay {} (c.attempt recorded source capture).2.surface.gl.commands).Keeps _
    rw [hheard.commands, Wiring.replay_append]
    exact hattempting.keeps hheard.answers hkeeps
  · exact fun c _ => Wiring.keeps_none _
  · intro c what hkeeps
    obtain ⟨added, hadded, hstores, -⟩ := happen_commands what c.surface
    change (Wiring.replay {} (shared.happen what c.surface).gl.commands).Keeps c.rectangle
    rw [hadded, Wiring.replay_append]
    exact hkeeps.replay hstores

/-- A step that is no attempt draws nothing. -/
theorem not_draws_of_added {commands added : List Command} {pre post : List Command}
    {first count : Int} (hadded : ∀ c ∈ added, ¬c.draws)
    (h : commands ++ added = commands ++ (pre ++ .drawArrays first count :: post)) : False := by
  rw [List.append_cancel_left_eq] at h
  exact hadded (.drawArrays first count) (by simp [h]) ⟨first, count, rfl⟩

/-- **All is set at every draw.**  Take any life of a canvas on a native surface, with its size and
the answers of the library changing at will and others leaving nothing bound at times, and any step
after it.  Wherever the library draws in that step, it draws the four corners, with a program that
was created, linked and found good in this step and is current and not deleted; with the buffer of
the canvas bound, live and filled with the rectangle and nothing else; with exactly those places fed
in this step that the library reports; and on a frame of the current size that was cleared. -/
theorem ready_at_draws (x : NativeSurface) (life : List (Step Incident)) (t : Step Incident)
    (pre post : List Command) (first count : Int) :
    let c := ({ surface := x } : Canvas NativeSurface).steps shared life
    let c' := c.step shared t
    c'.surface.gl.commands =
      c.surface.gl.commands ++ (pre ++ .drawArrays first count :: post) →
    ∃ program buffer, c'.rectangle = some buffer ∧ first = 0 ∧ count = 4 ∧
      Wiring.Ready c.surface.gl.script (recorded.view c.surface)
        ((Wiring.replay {} c.surface.gl.commands).begin.replay pre) program buffer := by
  intro c c' hdraw
  have hkeeps : (Wiring.replay {} c.surface.gl.commands).Keeps c.rectangle := keeps_steps x life
  have hcases : (∃ source capture, c' = (c.attempt recorded source capture).2) ∨
      c' = c.release recorded ∨ (∃ what, c' = c.change shared what) ∨ c' = c :=
    step_cases shared c t
  obtain ⟨source, capture, hc'⟩ | hc' | ⟨what, hc'⟩ | hc' := hcases
  · obtain ⟨said, result, hattempting, hheard⟩ := attempt_heard source capture c
    rw [← hc'] at hattempting hheard
    rw [hheard.commands, List.append_cancel_left_eq] at hdraw
    exact hattempting.ready hheard.answers hkeeps hdraw
  · have hheard := release_heard c
    rw [← hc'] at hheard
    rw [hheard.commands] at hdraw
    refine (not_draws_of_added (not_draws_of_silent ?_) hdraw).elim
    cases c.rectangle <;> simp [returning, Exchange.draws]
  · obtain ⟨added, hadded, -, hsilent⟩ := happen_commands what c.surface
    have hcommands : c'.surface.gl.commands = c.surface.gl.commands ++ added := by
      rw [hc']
      exact hadded
    rw [hcommands] at hdraw
    exact (not_draws_of_added hsilent hdraw).elim
  · rw [hc', ← List.append_nil c.surface.gl.commands, List.append_assoc] at hdraw
    exact (not_draws_of_added (List.forall_mem_nil _) hdraw).elim

example : Shader.cornerBytes.length = 32 := by decide +kernel

/-- The arguments that never vary: floats that are not normalised, without stride or offset. -/
example (i : Nat) : (Command.vertexAttribPointer i 2).arguments =
    [.number i, .number 2, .number 5126, .number 0, .number 0, .number 0] := rfl

/-- A small surface, of whose inputs the library knows the position and the resolution. -/
def knowing : NativeSurface where
  width := 4
  height := 2
  gl.script.attribs _ := 0
  gl.script.uniforms name := if name = Shader.resolution then 3 else -1

/-- A frame is drawn, others leave nothing bound, and the size changes. -/
def interrupted : List (Step Incident) :=
  [.draw "void main() {}", .change .unbind, .change (.change (.resize 8 2))]

theorem ready_at_draws_interrupted :
    let c := ({ surface := knowing } : Canvas NativeSurface).steps shared interrupted
    let c' := c.step shared (.draw "void main() {}")
    ∃ pre post, c'.surface.gl.commands =
        c.surface.gl.commands ++ (pre ++ .drawArrays 0 4 :: post) ∧
      ∃ program buffer, c'.rectangle = some buffer ∧
        Wiring.Ready c.surface.gl.script (recorded.view c.surface)
          ((Wiring.replay {} c.surface.gl.commands).begin.replay pre) program buffer := by
  intro c c'
  let added := c'.surface.gl.commands.drop c.surface.gl.commands.length
  have hdraw : c'.surface.gl.commands = c.surface.gl.commands ++
      (added.takeWhile (· ≠ .drawArrays 0 4) ++
        .drawArrays 0 4 :: (added.dropWhile (· ≠ .drawArrays 0 4)).tail) := by
    decide +kernel
  obtain ⟨program, buffer, hrectangle, -, -, hready⟩ :=
    ready_at_draws knowing interrupted (.draw "void main() {}") _ _ 0 4 hdraw
  exact ⟨_, _, hdraw, program, buffer, hrectangle, hready⟩

end Canvas

end ShaderSketch
