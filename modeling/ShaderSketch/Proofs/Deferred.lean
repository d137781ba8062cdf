import ShaderSketch.Proofs.Wiring

/-!
# Deferred deletion

A graphics library does not delete everything at once.  A program that is deleted while it is
current stays until another one, or none, is current; a shader that is deleted while it is attached
stays until it is detached.  An attempt deletes its program while that is current, so that something
is always left behind: this module counts what.

## Main definitions

* `Gl.Resident`, `Gl.Census` — an object that is alive, and all of them
* `Gl.Census.after`, `Gl.Census.replay` — the census after commands, by the rules of deletion
* `Gl.Census.touched` — the programs that a command reads, uses or deletes
* `Gl.Census.Sparing` — commands that touch programs of their own, and keep two alive at most
* `Gl.Census.Settled` — what may be left between two steps

## Main results

* `Frame.Attempting.leads` : every attempt touches only the program that it makes
* `Canvas.left_steps` : what is left between two steps is the current program at most
* `Canvas.deferred_deletion` : nothing grows in any life of a canvas

## Design notes

The rules of deletion are those of the library, and hold for objects of any history.  A canvas meets
only few censuses, those of `building` and `drawing`, so that an attempt is followed from one of
them to the next.  Programs of earlier steps are told apart by their numbers, which only rise.
-/

namespace ShaderSketch

open Surface Gl

/-! ## The census -/

namespace Gl

/-- An object that is alive, and whether it was flagged for deletion. -/
structure Resident where
  handle : Handle
  flagged : Bool := false
  deriving Repr, DecidableEq

/-- An object after the deletion of a handle: flagged if that is its own. -/
def Resident.flag (h : Handle) (r : Resident) : Resident :=
  if r.handle = h then { r with flagged := true } else r

/-- The shaders and the programs that are alive, which shader is attached to which program, and the
current program.  Objects are counted by the rules of the library: what was flagged stays alive as
long as it is used, a shader by the programs that it is attached to, and a program by being current.
-/
structure Census where
  shaders : List Resident := []
  programs : List Resident := []
  attached : List (Handle × Handle) := []
  current : Option Handle := none
  deriving Repr, DecidableEq

namespace Census

/-- The census without the flagged programs that are not current; what was attached to those is
detached. -/
def sweepPrograms (g : Census) : Census :=
  let programs := g.programs.filter fun p => !p.flagged || g.current = some p.handle
  { g with programs, attached := g.attached.filter fun x => programs.any (·.handle = x.1) }

/-- The census without the flagged shaders that are not attached. -/
def sweepShaders (g : Census) : Census :=
  { g with shaders := g.shaders.filter fun s => !s.flagged || g.attached.any (·.2 = s.handle) }

/-- The census without the flagged objects that nothing keeps. -/
def sweep (g : Census) : Census := g.sweepPrograms.sweepShaders

/-- The census after a command.  What is deleted is flagged, and goes as soon as nothing keeps it;
a name that nothing alive has cannot be attached or used. -/
def after (g : Census) : Command → Census
  | .createShader _ h => { g with shaders := ⟨h, false⟩ :: g.shaders }
  | .createProgram h => { g with programs := ⟨h, false⟩ :: g.programs }
  | .deleteShader h => sweep { g with shaders := g.shaders.map (·.flag h) }
  | .deleteProgram h => sweep { g with programs := g.programs.map (·.flag h) }
  | .attachShader p s =>
    if g.programs.any (·.handle = p) ∧ g.shaders.any (·.handle = s) then
      { g with attached := (p, s) :: g.attached }
    else g
  | .detachShader p s => sweep { g with attached := g.attached.filter (· ≠ (p, s)) }
  | .useProgram p =>
    if p = 0 ∨ g.programs.any (·.handle = p) then sweep { g with current := Wiring.object? p }
    else g
  | _ => g

/-- The census after commands. -/
def replay (g : Census) (commands : List Command) : Census := commands.foldl after g

/-- The programs that a command reads, uses or deletes.  Uniforms and draws use the current one. -/
def touched (g : Census) : Command → List Handle
  | .attachShader p _ | .detachShader p _ | .linkProgram p | .getProgram p _ | .deleteProgram p
  | .attribLocation p _ | .uniformLocation p _ => [p]
  | .useProgram p => (Wiring.object? p).toList
  | .uniform2f _ _ _ | .uniform1f _ _ | .drawArrays _ _ => g.current.toList
  | _ => []

/-- Commands that touch only programs with handles between two numbers, and never keep more than
two programs alive. -/
@[simp] def Sparing (first last : Handle) : Census → List Command → Prop
  | _, [] => True
  | g, c :: commands =>
    ((∀ p ∈ g.touched c, first < p ∧ p ≤ last) ∧ (g.after c).programs.length ≤ 2) ∧
      Sparing first last (g.after c) commands

/-- Whether a command is about programs, in that it touches one or makes one. -/
def concerns : Command → Bool
  | .createProgram _ | .attachShader _ _ | .detachShader _ _ | .linkProgram _ | .getProgram _ _
  | .useProgram _ | .deleteProgram _ | .attribLocation _ _ | .uniformLocation _ _
  | .uniform2f _ _ _ | .uniform1f _ _ | .drawArrays _ _ => true
  | _ => false

variable {g : Census} {first last : Handle} {commands commands' : List Command}

@[simp] theorem replay_nil : g.replay [] = g := rfl

@[simp] theorem replay_cons {c : Command} :
    g.replay (c :: commands) = (g.after c).replay commands := rfl

theorem replay_append : g.replay (commands ++ commands') = (g.replay commands).replay commands' :=
  List.foldl_append

theorem sparing_append :
    g.Sparing first last (commands ++ commands') ↔
      g.Sparing first last commands ∧ (g.replay commands).Sparing first last commands' := by
  induction commands generalizing g with
  | nil => simp
  | cons c commands ih => simp [ih, and_assoc]

/-- At any point of sparing commands, no more than two programs are alive. -/
theorem Sparing.length_le (h : g.Sparing first last (commands ++ commands'))
    (few : g.programs.length ≤ 2) : (g.replay commands).programs.length ≤ 2 := by
  induction commands generalizing g with
  | nil => exact few
  | cons c commands ih =>
      obtain ⟨⟨-, hfew⟩, hrest⟩ := h
      exact ih hrest hfew

/-- Any one of sparing commands touches programs between the numbers. -/
theorem Sparing.touched {c : Command} (h : g.Sparing first last (commands ++ c :: commands')) :
    ∀ p ∈ (g.replay commands).touched c, first < p ∧ p ≤ last := by
  obtain ⟨-, ⟨htouched, -⟩, -⟩ := sparing_append.mp h
  exact htouched

/-- A command that is not about programs touches none, and makes none. -/
theorem after_of_not_concerns {c : Command} (h : concerns c = false) :
    g.touched c = [] ∧ (g.after c).programs.length ≤ g.programs.length := by
  cases c with
  | deleteShader => exact ⟨rfl, List.length_filter_le _ _⟩
  | createProgram | attachShader | detachShader | linkProgram | getProgram | useProgram
  | deleteProgram | attribLocation | uniformLocation | uniform2f | uniform1f | drawArrays => cases h
  | _ => exact ⟨rfl, Nat.le_refl _⟩

/-- Commands that are not about programs are sparing. -/
theorem sparing_of_not_concerns (h : commands.any concerns = false)
    (few : g.programs.length ≤ 2) : g.Sparing first last commands := by
  induction commands generalizing g with
  | nil => trivial
  | cons c commands ih =>
      rw [List.any_cons, Bool.or_eq_false_iff] at h
      obtain ⟨htouched, hlength⟩ := after_of_not_concerns (g := g) h.1
      have hfew := Nat.le_trans hlength few
      refine ⟨⟨?_, hfew⟩, ih h.2 hfew⟩
      rw [htouched]
      exact List.forall_mem_nil _

/-- What an attempt finds and makes before it turns to its frame: shaders that nobody deleted, the
new program, and the one that is current and was deleted before. -/
def building (old new : Option Handle) (shaders : List Handle) : Census where
  shaders := shaders.map (⟨·, false⟩)
  programs := new.toList.map (⟨·, false⟩) ++ old.toList.map (⟨·, true⟩)
  current := old

/-- What may be left between two steps: nothing is alive but one program, which is current and
flagged.  This holds between any two steps, and is why deferred deletion does not add up. -/
structure Settled (g : Census) : Prop where
  shaders : g.shaders = []
  few : g.programs.length ≤ 1
  kept : ∀ p ∈ g.programs, p.flagged ∧ g.current = some p.handle

theorem settled_building (old : Option Handle) : (building old none []).Settled := by
  cases old <;> exact ⟨rfl, by simp [building], by simp [building]⟩

theorem length_building (old new : Option Handle) (shaders : List Handle) :
    (building old new shaders).programs.length ≤ 2 := by
  cases old <;> cases new <;> simp [building]

/-- Where every flagged program is current, and nothing is attached to a dead one, no program
goes. -/
theorem sweepPrograms_of_kept (hkept : ∀ p ∈ g.programs, p.flagged → g.current = some p.handle)
    (hattached : ∀ x ∈ g.attached, g.programs.any (·.handle = x.1)) : g.sweepPrograms = g := by
  have hprograms : g.programs.filter (fun p => !p.flagged || g.current = some p.handle) =
      g.programs := by
    rw [List.filter_eq_self]
    intro p hp
    cases hflagged : p.flagged with
    | false => rfl
    | true => simpa using hkept p hp hflagged
  rw [sweepPrograms, hprograms]
  exact congrArg (Census.mk g.shaders g.programs · g.current) (List.filter_eq_self.mpr hattached)

/-- Where no shader is flagged either, nothing goes. -/
theorem sweep_of_kept (hkept : ∀ p ∈ g.programs, p.flagged → g.current = some p.handle)
    (hattached : ∀ x ∈ g.attached, g.programs.any (·.handle = x.1))
    (hshaders : ∀ s ∈ g.shaders, s.flagged = false) : g.sweep = g := by
  rw [sweep, sweepPrograms_of_kept hkept hattached, sweepShaders]
  refine congrArg (Census.mk · g.programs g.attached g.current) (List.filter_eq_self.mpr ?_)
  intro s hs
  rw [hshaders s hs]
  rfl

variable {old new : Option Handle} {shaders : List Handle}

theorem kept_building (old new : Option Handle) (shaders : List Handle) :
    ∀ p ∈ (building old new shaders).programs, p.flagged → old = some p.handle := by
  cases old <;> cases new <;> simp [building]

/-- Of shaders that nobody deleted, the one that is flagged now is the only flagged one. -/
theorem filter_flag (h : Handle) (shaders : List Handle) :
    ((shaders.map fun s => (⟨s, false⟩ : Resident)).map (·.flag h)).filter (!·.flagged) =
      (shaders.filter (· ≠ h)).map (⟨·, false⟩) := by
  induction shaders with
  | nil => rfl
  | cons s shaders ih =>
      by_cases heq : s = h <;> simpa [Resident.flag, heq] using ih

/-- A shader that is deleted while it is not attached goes at once. -/
theorem after_deleteShader (h : Handle) :
    (building old new shaders).after (.deleteShader h) =
      building old new (shaders.filter (· ≠ h)) := by
  have hprograms := sweepPrograms_of_kept (g := { building old new shaders with
    shaders := (building old new shaders).shaders.map (·.flag h) })
    (kept_building old new shaders) nofun
  rw [after, sweep, hprograms]
  have hshaders := filter_flag h shaders
  simp only [sweepShaders, building, List.any_nil, Bool.or_false]
  rw [hshaders]

/-- A program that is deleted while another one is current goes at once. -/
theorem after_deleteProgram {p : Handle} (hp : old ≠ some p) :
    (building old (some p) shaders).after (.deleteProgram p) = building old none shaders := by
  cases old with
  | none => simp [after, building, sweep, sweepPrograms, sweepShaders, Resident.flag]
  | some q =>
      have hne : q ≠ p := fun heq => hp (congrArg some heq)
      simp [after, building, sweep, sweepPrograms, sweepShaders, Resident.flag, hne]

/-- A program that is made current takes the place of the one before, which goes. -/
theorem after_useProgram {p : Handle} (hp : old ≠ some p) (hzero : p ≠ 0) :
    (building old (some p) []).after (.useProgram p) =
      { programs := [⟨p, false⟩], current := some p } := by
  cases old with
  | none => simp [after, building, sweep, sweepPrograms, sweepShaders, Wiring.object?, hzero]
  | some q =>
      have hne : p ≠ q := fun heq => hp (congrArg some heq.symm)
      simp [after, building, sweep, sweepPrograms, sweepShaders, Wiring.object?, hzero, hne]

/-- When no program is current any more, the one before goes. -/
theorem after_useNone : (building old none []).after (.useProgram 0) = building none none [] := by
  cases old <;>
    simp [after, building, sweep, sweepPrograms, sweepShaders, Wiring.object?]

/-- What there is while shaders are attached to a new program. -/
def joined (old : Option Handle) (p : Handle) (shaders linked : List Handle) : Census :=
  { building old (some p) shaders with attached := linked.map (p, ·) }

theorem length_joined (old : Option Handle) (p : Handle) (shaders linked : List Handle) :
    (joined old p shaders linked).programs.length ≤ 2 :=
  length_building old (some p) shaders

/-- A shader that is alive is attached to a new program. -/
theorem after_attachShader {p s : Handle} {linked : List Handle} (hs : s ∈ shaders) :
    (joined old p shaders linked).after (.attachShader p s) =
      joined old p shaders (s :: linked) := by
  have hprogram : (joined old p shaders linked).programs.any (·.handle = p) := by
    simp [joined, building]
  have hshader : (joined old p shaders linked).shaders.any (·.handle = s) := by
    simpa [joined, building] using hs
  rw [after, if_pos ⟨hprogram, hshader⟩]
  rfl

/-- A shader that nobody deleted stays when it is detached. -/
theorem after_detachShader {p s : Handle} {linked : List Handle} :
    (joined old p shaders linked).after (.detachShader p s) =
      joined old p shaders (linked.filter (· ≠ s)) := by
  have hlinked : (linked.map (p, ·)).filter (· ≠ (p, s)) = (linked.filter (· ≠ s)).map (p, ·) := by
    rw [List.filter_map]
    exact congrArg (List.map _) (List.filter_congr fun x _ => by simp)
  have hattached : ({ joined old p shaders linked with
      attached := (joined old p shaders linked).attached.filter (· ≠ (p, s)) } : Census) =
      joined old p shaders (linked.filter (· ≠ s)) :=
    congrArg (Census.mk _ _ · old) hlinked
  rw [after, hattached]
  refine sweep_of_kept (kept_building old (some p) shaders) ?_ (by simp [joined, building])
  intro x hx
  obtain ⟨s', -, rfl⟩ := List.mem_map.mp hx
  simp [joined, building]

end Census

end Gl

/-! ## Attempts -/

namespace Frame

open Census

/-- A conversation leads sparingly from one census to another.  The two numbers are the last one
that was given out before and the last one afterwards: what is made in between is what may be
touched. -/
structure Leads (first last : Handle) (g : Census) (said : List (Exchange Int)) (g' : Census) :
    Prop where
  sparing : g.Sparing first last (said.flatMap Exchange.commands)
  replay : g.replay (said.flatMap Exchange.commands) = g'

variable {said said' : List (Exchange Int)} {first last : Handle} {g g' g'' : Census}
  {old new : Option Handle} {shaders : List Handle}

theorem Leads.trans (h : Leads first last g said g') (h' : Leads first last g' said' g'') :
    Leads first last g (said ++ said') g'' := by
  obtain ⟨hsparing, rfl⟩ := h
  obtain ⟨hsparing', rfl⟩ := h'
  constructor
  · rw [List.flatMap_append, sparing_append]
    exact ⟨hsparing, hsparing'⟩
  · rw [List.flatMap_append, replay_append]

/-- What is said about anything but programs is sparing. -/
theorem leads_of_not_concerns (h : (said.flatMap Exchange.commands).any concerns = false)
    (few : g.programs.length ≤ 2) (hreplay : g.replay (said.flatMap Exchange.commands) = g') :
    Leads first last g said g' :=
  ⟨sparing_of_not_concerns h few, hreplay⟩

/-- To delete the only shader that there is touches no program, and leaves none. -/
theorem leads_deleteShader (s : Handle) :
    Leads first last (building old new [s]) [told (.deleteShader s) ()]
      (building old new []) := by
  refine leads_of_not_concerns rfl (length_building ..) ?_
  show (building old new [s]).after (.deleteShader s) = _
  rw [after_deleteShader, List.filter_cons_of_neg (by simp), List.filter_nil]

/-- To delete both shaders that there are touches no program, and leaves none. -/
theorem leads_deleteShaders (vertex fragment : Handle) :
    Leads first last (building old new [fragment, vertex])
      [told (.deleteShader vertex) (), told (.deleteShader fragment) ()] (building old new []) := by
  refine leads_of_not_concerns rfl (length_building ..) ?_
  show ((building old new [fragment, vertex]).after (.deleteShader vertex)).after
    (.deleteShader fragment) = _
  have hboth : ([fragment, vertex].filter (· ≠ vertex)).filter (· ≠ fragment) = [] := by
    simp
  rw [after_deleteShader, after_deleteShader, hboth]

/-- A shader that comes of compiling was made by it. -/
theorem Compiling.mem_handles {stage : Stage} {source : String} {shader : Handle}
    (h : Compiling stage source said (.ok shader)) : shader ∈ handles said := by
  cases h
  exact List.mem_cons_self

/-- Compiling touches no program, and leaves one shader more or none. -/
theorem Compiling.leads {stage : Stage} {source : String} {result : Except Canvas.Failure Handle}
    (h : Compiling stage source said result) (fresh : ∀ s ∈ handles said, s ∉ shaders) :
    Leads first last (building old new shaders) said
      (building old new (result.toOption.toList ++ shaders)) := by
  refine leads_of_not_concerns ?_ (length_building ..) ?_
  · cases h <;> rfl
  · cases h with
    | refused reason | accepted shader => rfl
    | rejected shader log =>
        have hnew : shader ∉ shaders := fresh shader List.mem_cons_self
        have hfilter : shaders.filter (· ≠ shader) = shaders :=
          List.filter_eq_self.mpr fun s hs => decide_eq_true fun heq => hnew (heq ▸ hs)
        show (building old new (shader :: shaders)).after (.deleteShader shader) = _
        rw [after_deleteShader, List.filter_cons_of_neg (by simp), hfilter]
        rfl

/-- Once both shaders were attached and detached, there is the new program more. -/
theorem leads_joining {vertex fragment program : Handle} (hfirst : first < program)
    (hlast : program ≤ last) :
    Leads first last (building old none [fragment, vertex]) (joining program vertex fragment)
      (building old (some program) [fragment, vertex]) := by
  have hfew := length_joined old program [fragment, vertex]
  have hcreate : (building old none [fragment, vertex]).after (.createProgram program) =
      joined old program [fragment, vertex] [] := rfl
  have hlink (linked : List Handle) :
      (joined old program [fragment, vertex] linked).after (.linkProgram program) =
        joined old program [fragment, vertex] linked := rfl
  have hvertex : (joined old program [fragment, vertex] []).after (.attachShader program vertex) =
      joined old program [fragment, vertex] [vertex] :=
    after_attachShader (by simp)
  have hfragment : (joined old program [fragment, vertex] [vertex]).after
      (.attachShader program fragment) = joined old program [fragment, vertex] [fragment, vertex] :=
    after_attachShader (by simp)
  have hnone : ([fragment, vertex].filter (· ≠ vertex)).filter (· ≠ fragment) = [] := by
    simp
  constructor
  · simp [joining, Exchange.commands, touched, hcreate, hvertex, hfragment, hlink,
      after_detachShader, hfew, hfirst, hlast]
  · simp only [joining, Exchange.commands, List.flatMap_cons, List.flatMap_nil, List.append_nil,
      List.cons_append, List.nil_append, replay_cons, replay_nil, hcreate, hvertex, hfragment,
      hlink, after_detachShader, hnone]
    rfl

/-- Linking touches only the program that it makes, and leaves that or none. -/
theorem Linking.leads {vertex fragment : Handle} {result : Except Canvas.Failure Handle}
    (h : Linking vertex fragment said result) (ascending : Ascending first said last)
    (hold : ∀ q ∈ old, q ≤ first) :
    Leads first last (building old none [fragment, vertex]) said
      (building old result.toOption [fragment, vertex]) := by
  have hfew := length_building old
  have hsame (program : Handle) (query : Query) :
      (building old (some program) [fragment, vertex]).after (.getProgram program query) =
        building old (some program) [fragment, vertex] := rfl
  cases h with
  | refused reason => exact ⟨trivial, rfl⟩
  | accepted program =>
      obtain ⟨hfirst, hlast⟩ := ascending.within program (by simp [handles, joining, Exchange.made])
      refine (leads_joining hfirst hlast).trans ⟨?_, rfl⟩
      simp [Exchange.commands, touched, hsame, hfew, hfirst, hlast]
  | rejected program log =>
      obtain ⟨hfirst, hlast⟩ := ascending.within program (by simp [handles, joining, Exchange.made])
      -- the program that goes is not the one that is current
      have hnew : old ≠ some program := fun heq => Nat.not_le.mpr hfirst (hold program heq)
      have hdelete : (building old (some program) [fragment, vertex]).after
          (.deleteProgram program) = building old none [fragment, vertex] :=
        after_deleteProgram hnew
      refine (leads_joining hfirst hlast).trans ⟨?_, ?_⟩
      · simp [Exchange.commands, touched, hsame, hdelete, hfew, hfirst, hlast]
      · simp [Exchange.commands, hsame, hdelete, Except.toOption]

/-- A shader that was made is not made again. -/
theorem Compiling.not_made_again {stage : Stage} {source : String} {shader : Handle}
    {rest : List (Exchange Int)} (h : Compiling stage source said (.ok shader))
    (ascending : Ascending first (said ++ (said' ++ rest)) last) :
    ∀ s ∈ handles said', s ∉ [shader] := by
  rintro _ hs (_ | ⟨_, ⟨⟩⟩)
  exact ascending.not_mem h.mem_handles (by simp [handles_append, hs])

/-- Making a program touches only that, and leaves it or none; both shaders go. -/
theorem Assembling.leads {source : String} {result : Except Canvas.Failure Handle}
    (h : Assembling source said result) (ascending : Ascending first said last)
    (hold : ∀ q ∈ old, q ≤ first) :
    Leads first last (building old none []) said (building old result.toOption []) := by
  cases h with
  | noVertex vertexStage => exact vertexStage.leads fun _ _ => List.not_mem_nil
  | @noFragment _ said' vertex e vertexStage fragmentStage =>
      have hvertex : Leads first last (building old none []) _ (building old none [vertex]) :=
        vertexStage.leads fun _ _ => List.not_mem_nil
      have hfragment : Leads first last (building old none [vertex]) said'
          (building old none [vertex]) :=
        fragmentStage.leads (vertexStage.not_made_again ascending)
      exact hvertex.trans (hfragment.trans (leads_deleteShader vertex))
  | @joined _ said' said'' vertex fragment _ vertexStage fragmentStage link =>
      have hvertex : Leads first last (building old none []) _ (building old none [vertex]) :=
        vertexStage.leads fun _ _ => List.not_mem_nil
      have hfragment : Leads first last (building old none [vertex]) said'
          (building old none [fragment, vertex]) :=
        fragmentStage.leads (vertexStage.not_made_again ascending)
      have hlink := link.leads ascending.right.right.left hold
      exact hvertex.trans (hfragment.trans (hlink.trans (leads_deleteShaders vertex fragment)))

/-- A program that comes of a source was made for it. -/
theorem Assembling.mem_handles {source : String} {program : Handle}
    (h : Assembling source said (.ok program)) : program ∈ handles said := by
  cases h with
  | joined _ _ link =>
      cases link
      simp [handles, joining, Exchange.made]

/-- Having the rectangle is not about programs. -/
theorem Holding.leads {rectangle : Option Handle} {buffer : Handle}
    (h : Holding rectangle said buffer) :
    Leads first last (building old new []) said (building old new []) := by
  cases h with
  | held | made => exact leads_of_not_concerns rfl (length_building ..) rfl

/-- What is alive while a frame is drawn: the program that it is drawn with. -/
def drawing (program : Handle) : Census where
  programs := [⟨program, false⟩]
  current := some program

/-- To feed a program makes it current, and the one before goes. -/
theorem leads_feeding {view : View} {program buffer : Handle} (hfirst : first < program)
    (hlast : program ≤ last) (hold : ∀ q ∈ old, q ≤ first) (position : Option Nat)
    (resolution time : Option Int) :
    Leads first last (building old (some program) [])
      (feeding view program buffer position resolution time) (drawing program) := by
  have hnew : old ≠ some program := fun heq => Nat.not_le.mpr hfirst (hold program heq)
  have hzero : program ≠ 0 := Nat.ne_zero_of_lt hfirst
  have huse : (building old (some program) []).after (.useProgram program) = drawing program :=
    after_useProgram hnew hzero
  have hcurrent : Leads first last (building old (some program) [])
      [told (.useProgram (some program)) ()] (drawing program) := by
    refine ⟨?_, huse⟩
    simp only [List.flatMap_singleton, Exchange.commands, Option.getD_some, Sparing, huse]
    simp [touched, drawing, Wiring.object?_of_ne hzero, hfirst, hlast]
  cases position <;> cases resolution <;> cases time <;> refine hcurrent.trans ?_ <;>
    constructor <;> simp [Exchange.commands, touched, Census.after, drawing, hfirst, hlast]

/-- To paint a frame uses the program that is current. -/
theorem Painting.leads {view : View} {capture : Bool} {pixels : Pixels} {program : Handle}
    (h : Painting view capture said pixels) (hfirst : first < program) (hlast : program ≤ last) :
    Leads first last (drawing program) said (drawing program) := by
  constructor <;> cases h <;>
    simp [strokes, Exchange.commands, touched, Census.after, drawing, hfirst, hlast]

/-- A program that is deleted while it is current stays, and is flagged. -/
theorem leads_deleteProgram {program : Handle} (hfirst : first < program) (hlast : program ≤ last)
    (shown : Except Canvas.Failure Unit) :
    Leads first last (drawing program) [told (.deleteProgram program) (), ⟨.present, shown⟩]
      (building (some program) none []) := by
  constructor <;>
    simp [Exchange.commands, touched, Census.after, drawing, building, sweep, sweepPrograms,
      sweepShaders, Resident.flag, hfirst, hlast]

variable {view : View} {rectangle : Option Handle} {source : String} {capture : Bool}
  {outcome : Except Canvas.Failure Pixels × Option Handle}

/-- **Every attempt touches only the program that it makes**, keeps two alive at most, and leaves
the one that is current.  The program that is current was numbered before, so that it is none of
those that are made in the attempt, and is deleted by the rules when it is current no more. -/
theorem Attempting.leads (h : Attempting view rectangle source capture said outcome)
    (ascending : Ascending first said last) (hold : ∀ q ∈ old, q ≤ first) :
    ∃ old', (∀ q ∈ old', q ≤ last) ∧
      Leads first last (building old none []) said (building old' none []) := by
  have hlater : ∀ q ∈ old, q ≤ last := fun q hq => Nat.le_trans (hold q hq) ascending.le
  cases h with
  | noContext => exact ⟨old, hlater, trivial, rfl⟩
  | noProgram _ failed => exact ⟨old, hlater, failed.leads ascending hold⟩
  | @noRectangle _ program _ assembled lacking reason =>
      obtain ⟨hfirst, hlast⟩ := ascending.left.within program assembled.mem_handles
      have hnew : old ≠ some program := fun heq => Nat.not_le.mpr hfirst (hold program heq)
      refine ⟨old, hlater, (assembled.leads ascending.left hold).trans ⟨?_, ?_⟩⟩
      · simp [Exchange.commands, touched, Except.toOption, after_deleteProgram hnew,
          length_building, hfirst, hlast]
      · simp [Exchange.commands, Except.toOption, after_deleteProgram hnew]
  | @finished _ _ _ program buffer _ _ assembled holding position resolution time painting shown =>
      obtain ⟨hfirst, hlast⟩ := ascending.left.within program assembled.mem_handles
      have hbuilt := assembled.leads ascending.left hold
      have hfed : Leads first last (building old (some program) [])
          (feeding view program buffer position resolution time) (drawing program) :=
        leads_feeding hfirst hlast hold position resolution time
      have hpainted := painting.leads hfirst hlast
      refine ⟨some program, ?_, ?_⟩
      · rintro _ ⟨⟩
        exact hlast
      · exact hbuilt.trans (holding.leads.trans (hfed.trans (hpainted.trans
          (leads_deleteProgram hfirst hlast shown))))

end Frame

/-! ## Canvases -/

namespace Canvas

open NativeSurface Census ShaderSketch.Frame

variable {c c' : Canvas NativeSurface} {old old' : Option Handle}

/-- What is left of the programs of a canvas: the current one at most.  All that were deleted have
numbers that were given out.  Of programs that were deleted it is known only that their numbers were
given out before, and no more is needed to tell them from those that are made now. -/
structure Left (c : Canvas NativeSurface) (old : Option Handle) : Prop where
  census : replay {} c.surface.gl.commands = building old none []
  made : ∀ q ∈ old, q ≤ c.surface.gl.issued
  deleted : ∀ p, .deleteProgram p ∈ c.surface.gl.commands → p ≤ c.surface.gl.issued

/-- What a step tells the library: it leads sparingly from what is left to what is left.  One step
composes with the next because the census is of the same shape on both sides. -/
structure Moves (c c' : Canvas NativeSurface) (old old' : Option Handle)
    (said : List (Exchange Int)) : Prop where
  commands : c'.surface.gl.commands = c.surface.gl.commands ++ said.flatMap Exchange.commands
  leads : Leads c.surface.gl.issued c'.surface.gl.issued (building old none []) said
    (building old' none [])
  made : ∀ q ∈ old', q ≤ c'.surface.gl.issued
  issued : c.surface.gl.issued ≤ c'.surface.gl.issued

/-- What is left after a step. -/
theorem Left.moves {said : List (Exchange Int)} (h : c.Left old) (m : Moves c c' old old' said) :
    c'.Left old' where
  census := by rw [m.commands, replay_append, h.census, m.leads.replay]
  made := m.made
  deleted := by
    intro p hp
    rw [m.commands] at hp
    obtain hbefore | hadded := List.mem_append.mp hp
    · exact Nat.le_trans (h.deleted p hbefore) m.issued
    · -- what is deleted in the step is touched by it
      obtain ⟨pre, post, hsplit⟩ := List.append_of_mem hadded
      have hsparing := m.leads.sparing
      rw [hsplit] at hsparing
      exact (hsparing.touched p List.mem_cons_self).2

theorem moves_attempt (source : String) (capture : Bool) (h : c.Left old) :
    ∃ old' said, Moves c (c.attempt recorded source capture).2 old old' said := by
  have hattempting := attempting_said recorded source capture c
  have hascending : Ascending c.surface.gl.issued (c.said recorded source capture)
      (c.attempt recorded source capture).2.surface.gl.issued :=
    counts.ascending (Frame.attempt (recorded.view c.surface) c.rectangle source capture) c.surface
  have hheard : c.surface.Heard (c.said recorded source capture)
      (c.attempt recorded source capture).2.surface :=
    heard_said _ c.surface
  obtain ⟨old', hmade, hleads⟩ := hattempting.leads hascending h.made
  exact ⟨old', _, hheard.commands, hleads, hmade, hascending.le⟩

theorem moves_release (h : c.Left old) :
    Moves c (c.release recorded) old old (returning c.rectangle) := by
  obtain ⟨surface, _ | buffer, frames⟩ := c
  · exact ⟨(release_heard _).commands, ⟨trivial, rfl⟩, h.made, Nat.le_refl _⟩
  · exact ⟨(release_heard _).commands, leads_of_not_concerns rfl (length_building ..) rfl, h.made,
      Nat.le_refl _⟩

/-- An incident on the surface deletes nothing, and of programs it can only make none current. -/
theorem moves_change (what : Incident) (h : c.Left old) :
    ∃ old' said, Moves c (c.change shared what) old old' said := by
  cases what with
  | change what =>
      refine ⟨old, [], ?_, ⟨trivial, rfl⟩, ?_, ?_⟩
      · cases what <;> exact (List.append_nil _).symm
      · cases what <;> exact h.made
      · cases what <;> exact Nat.le_refl _
  | unbind =>
      refine ⟨none, [told (.useProgram none) (), told (.bindArrayBuffer none) ()],
        List.append_assoc .., ⟨?_, ?_⟩, nofun, Nat.le_refl _⟩
      · simp only [List.flatMap_cons, List.flatMap_nil, Exchange.commands, Option.getD_none,
          List.append_nil, List.cons_append, List.nil_append, Sparing, after_useNone]
        simp [touched, Wiring.object?, Census.after, length_building]
      · exact congrArg (Census.after · (.bindBuffer 0)) after_useNone

/-- **Every step leads sparingly** from what is left to what is left.  A release and a change tell
the library nothing about programs, so that only attempts have anything to show. -/
theorem exists_moves (t : Step Incident) (h : c.Left old) :
    ∃ old' said, Moves c (c.step shared t) old old' said := by
  have hcases : (∃ source capture, c.step shared t = (c.attempt recorded source capture).2) ∨
      c.step shared t = c.release recorded ∨ (∃ what, c.step shared t = c.change shared what) ∨
      c.step shared t = c :=
    step_cases shared c t
  obtain ⟨source, capture, heq⟩ | heq | ⟨what, heq⟩ | heq := hcases
  · rw [heq]
    exact moves_attempt source capture h
  · rw [heq]
    exact ⟨old, _, moves_release h⟩
  · rw [heq]
    exact moves_change what h
  · rw [heq]
    exact ⟨old, [], (List.append_nil _).symm, ⟨trivial, rfl⟩, h.made, Nat.le_refl _⟩

/-- In every life, what is left of the programs of a canvas is the current one at most. -/
theorem left_steps (h : c.Left old) (life : List (Step Incident)) :
    ∃ old', (c.steps shared life).Left old' := by
  induction life generalizing c old with
  | nil => exact ⟨old, h⟩
  | cons t life ih =>
      obtain ⟨old', said, hmoves⟩ := exists_moves t h
      exact ih (h.moves hmoves)

/-- **Nothing grows by deferred deletion.**  Take any life of a canvas on a native surface whose
library has heard nothing yet, with its size and the answers of the library changing at will and
others leaving nothing bound at times, and any step after it.  Before the step no shader is alive,
and one program at most, which is current and flagged.  During the step two programs are alive at
most, and it never reads, uses or deletes one that was deleted in an earlier step.  The library has
to be new, because a program that somebody else left alive would not be deleted by any step of the
canvas, and would be counted all the same. -/
theorem deferred_deletion (x : NativeSurface) (fresh : x.gl.commands = [])
    (life : List (Step Incident)) (t : Step Incident) :
    let c := ({ surface := x } : Canvas NativeSurface).steps shared life
    let c' := c.step shared t
    (Census.replay {} c.surface.gl.commands).Settled ∧
      ∃ added, c'.surface.gl.commands = c.surface.gl.commands ++ added ∧
        (∀ pre, pre <+: added →
          (Census.replay {} (c.surface.gl.commands ++ pre)).programs.length ≤ 2) ∧
        ∀ pre command post, added = pre ++ command :: post →
          ∀ p ∈ (Census.replay {} (c.surface.gl.commands ++ pre)).touched command,
            .deleteProgram p ∉ c.surface.gl.commands := by
  intro c c'
  have hstart : ({ surface := x } : Canvas NativeSurface).Left none :=
    ⟨by rw [fresh]; rfl, nofun, by simp [fresh]⟩
  obtain ⟨old, hleft⟩ := left_steps hstart life
  obtain ⟨old', said, hmoves⟩ := exists_moves t hleft
  have hsparing := hmoves.leads.sparing
  have hreplay (pre : List Command) : Census.replay {} (c.surface.gl.commands ++ pre) =
      (building old none []).replay pre := by
    rw [replay_append, hleft.census]
  refine ⟨?_, _, hmoves.commands, ?_, ?_⟩
  · rw [hleft.census]
    exact settled_building old
  · rintro pre ⟨post, hsplit⟩
    rw [← hsplit] at hsparing
    rw [hreplay]
    exact hsparing.length_le (length_building ..)
  · intro pre command post hsplit p hp hdeleted
    rw [hsplit] at hsparing
    rw [hreplay] at hp
    -- what the step touches it has made, with a number that was not given out before
    exact Nat.not_le.mpr (hsparing.touched p hp).1 (hleft.deleted p hdeleted)

/-- A canvas that draws, is left with nothing current, and draws again. -/
def redrawn : Canvas NativeSurface :=
  ({ surface := knowing } : Canvas NativeSurface).steps shared
    [.draw "void main() {}", .change .unbind, .draw "void main() {}"]

/-- The next frame finds one program alive, and for a while there are two. -/
theorem deferred_deletion_redrawn :
    let c' := redrawn.step shared (.draw "void main() {}")
    (Census.replay {} redrawn.surface.gl.commands).Settled ∧
      (Census.replay {} redrawn.surface.gl.commands).programs.length = 1 ∧
      (∃ pre, pre <+: c'.surface.gl.commands ∧ (Census.replay {} pre).programs.length = 2) ∧
      ∃ added, c'.surface.gl.commands = redrawn.surface.gl.commands ++ added ∧
        ∀ pre, pre <+: added →
          (Census.replay {} (redrawn.surface.gl.commands ++ pre)).programs.length ≤ 2 := by
  intro c'
  obtain ⟨hsettled, added, hadded, hfew, -⟩ := deferred_deletion knowing rfl
    [.draw "void main() {}", .change .unbind, .draw "void main() {}"] (.draw "void main() {}")
  refine ⟨hsettled, by decide +kernel, ⟨_, List.take_prefix 80 _, by decide +kernel⟩, added,
    hadded, hfew⟩

end Canvas

end ShaderSketch
