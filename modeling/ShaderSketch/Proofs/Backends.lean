import ShaderSketch.Proofs.Twins
import ShaderSketch.Proofs.Verdict

/-!
# Two surfaces side by side

A surface in memory and one over a native library are asked the same things.  If the library answers
as the context in memory does, then the two go on alike, and the library is told what the context in
memory is told.

## Main definitions

* `Gl.Native.Script.fits`, `Gl.Native.Script.repeats` — whether a script has the answers of the
  context in memory
* `MemorySurface.Paired` — two surfaces that agree on everything but names
* `MemorySurface.Staged` — what the library has to know to answer about shaders

## Main results

* `MemorySurface.Paired.agree`, `MemorySurface.Paired.after` : two surfaces that agree answer alike,
  and still agree afterwards
* `Routine.Twin.run` : twins run alike on surfaces that agree
* `Frame.Attempting.exists_script` : some script has the answers of any attempt

## Design notes

A script answers about a shader by its stage, and the context in memory by its handle.  So what was
said is read with the stages of the shaders that it made.
-/

namespace ShaderSketch

open Surface Gl

/-! ## Scripts that repeat answers -/

/-- The shader that an exchange makes, with its stage. -/
def Surface.Exchange.staged {ℓ : Type} : Exchange ℓ → List (Handle × Stage)
  | ⟨.gl (.createShader stage), .ok h⟩ => [(h, stage)]
  | _ => []

namespace Gl.Native.Script

variable (s : Native.Script)

/-- Whether a script has the answer that the context in memory gave: to a question about a shader
for the stage that it was made for, and to a question about a place whether it is there. -/
def fits (stages : List (Handle × Stage)) : Exchange String → Bool
  | ⟨.gl (.compileStatus h), good⟩ =>
    (stages.lookup h).any fun stage => good == decide (s.compileStatus stage = 1)
  | ⟨.gl (.shaderLog h), log⟩ => (stages.lookup h).any fun stage => log == s.compileLog stage
  | ⟨.gl (.linkStatus _), good⟩ => good == decide (s.linkStatus = 1)
  | ⟨.gl (.programLog _), log⟩ => log == s.linkLog
  | ⟨.gl (.attribLocation _ name), place⟩ => place == (location? (s.attribs name)).map Int.toNat
  | ⟨.gl (.uniformLocation _ name), place⟩ =>
    place.isSome == (location? (s.uniforms name)).isSome
  | _ => true

/-- Whether a script has all the answers in a conversation with the context in memory, which starts
when there are shaders for some stages already. -/
def repeats : List (Handle × Stage) → List (Exchange String) → Bool
  | _, [] => true
  | stages, e :: said => s.fits stages e && repeats (e.staged ++ stages) said

end Gl.Native.Script

/-! ## Counting what is made -/

namespace Gl

/-- Handles are renamed one to one. -/
theorem Renaming.handle_injective (n : Renaming) {h k : Handle} (heq : n.handle h = n.handle k) :
    h = k :=
  Nat.add_right_cancel heq

theorem Renaming.makes_call (n : Renaming) (c : Call String) : (n.call c).makes = c.makes := by
  cases c <;> rfl

/-- A place has the number that the library gives it. -/
theorem Native.eq_of_location? {i j : Int} (h : location? i = some j) : j = i := by
  unfold location? at h
  split at h
  · cases h
  · exact (Option.some.inj h).symm

/-- A native context numbers every object that it is asked for. -/
theorem Native.issued_answer (c : Call Int) (g : Native) :
    (Native.answer c g).2.issued = g.issued + c.makes := by
  cases c <;> rfl

namespace Memory

variable {g : Memory}

/-- A context in memory in which nothing is barred numbers every object that it is asked for. -/
theorem Unbarred.issued_answer (h : g.Unbarred) (c : Call String) :
    (Memory.answer c g).2.issued = g.issued + c.makes := by
  cases c with
  | createShader stage => rw [Memory.answer, createShader_ok (h.stage stage), Call.makes]
  | createProgram => rw [Memory.answer, createProgram_ok h.programs, Call.makes]
  | createBuffer => rw [Memory.answer, createBuffer_ok h.buffers, Call.makes]
  | _ => exact issued_of_makes rfl g

/-- A uniform is in the place that has its name. -/
theorem uniformLocation_eq {p : Handle} {name place : String}
    (h : g.uniformLocation p name = some place) : place = name := by
  unfold uniformLocation at h
  obtain ⟨program, -, hplace⟩ := Option.bind_eq_some_iff.mp h
  simpa using List.find?_some hplace

/-- A uniform that is there in memory just if the library has a place for it is in that place. -/
theorem location?_uniforms {p : Handle} {name : String} {uniforms : String → Int}
    (h : (g.uniformLocation p name).isSome = (Native.location? (uniforms name)).isSome) :
    Native.location? (uniforms name) = (g.uniformLocation p name).map uniforms := by
  cases hplace : g.uniformLocation p name with
  | none =>
      rw [hplace] at h
      simpa using h
  | some l =>
      -- the place is the name, and the library has a number for it
      obtain rfl := uniformLocation_eq hplace
      rw [hplace] at h
      obtain ⟨i, hi⟩ := Option.isSome_iff_exists.mp h.symm
      rw [hi, Native.eq_of_location? hi]
      rfl

end Memory

end Gl

/-! ## Surfaces that agree -/

namespace MemorySurface

/-- Two surfaces that agree: they look the same, nothing is going to fail in memory, and the same
number of objects is ahead of both.  Nothing may be going to fail in memory, since a library has no
call that would make it fail: a creation that is refused has no counterpart on its side. -/
structure Paired (shift : Nat) (x : MemorySurface) (m : NativeSurface) : Prop where
  view : NativeSurface.recorded.view m = plain.view x
  unhindered : x.Unhindered
  issued : m.gl.issued = x.gl.issued + shift

/-- The library knows the stages of the shaders that were made. -/
def Staged (shift : Nat) (stages : List (Handle × Stage)) (m : NativeSurface) : Prop :=
  ∀ h stage, stages.lookup h = some stage → m.gl.stages.lookup (h + shift) = some stage

variable {n : Renaming} {x : MemorySurface} {m : NativeSurface} {stages : List (Handle × Stage)}

/-- No stage needs to be known before anything is made. -/
theorem Staged.nil (shift : Nat) (m : NativeSurface) : Staged shift [] m :=
  fun _ _ hlookup => absurd hlookup (Option.some_ne_none _).symm

theorem Staged.stage {shift : Nat} (h : Staged shift stages m) {shader : Handle} {stage : Stage}
    (hlookup : stages.lookup shader = some stage) : m.gl.stage (shader + shift) = stage := by
  rw [Native.stage, h shader stage hlookup]
  rfl

/-- What is made next has the same number, up to the shift. -/
theorem Paired.next (h : Paired n.shift x m) :
    m.gl.issued + 1 = n.handle (x.gl.issued + 1) := by
  rw [h.issued, Renaming.handle, Nat.add_right_comm]

theorem Paired.resize {shift : Nat} (h : Paired shift x m) (width height : UInt32) :
    Paired shift (x.resize width height) (m.resize width height) where
  view := congrArg (fun v => { v with width, height }) h.view
  unhindered := ⟨h.unhindered.context, h.unhindered.unbarred, h.unhindered.shown⟩
  issued := h.issued

/-- Two surfaces that agree still agree when their clocks go on. -/
theorem Paired.wait {shift : Nat} (h : Paired shift x m) (seconds : Binary) :
    Paired shift { x with seconds } { m with seconds } where
  view := congrArg (fun v => { v with seconds }) h.view
  unhindered := ⟨h.unhindered.context, h.unhindered.unbarred, h.unhindered.shown⟩
  issued := h.issued

/-- Two surfaces that agree do so whatever the library will answer. -/
theorem Paired.direct {shift : Nat} (h : Paired shift x m) (script : Native.Script) :
    Paired shift x { m with gl := { m.gl with script } } :=
  ⟨h.view, h.unhindered, h.issued⟩

/-- **Two surfaces that agree answer alike**, if the script has the answers.  The stages are kept
beside the surfaces because a script answers by the stage of a shader, while the context in memory
answers by the shader. -/
theorem Paired.agree (h : Paired n.shift x m) (place : n.place = m.gl.script.uniforms)
    (staged : Staged n.shift stages m) (q : Request String)
    (fits : m.gl.script.fits stages ⟨q, (plain.answer q x).1⟩) :
    n.Agree q (plain.answer q x).1 (NativeSurface.recorded.answer (n.request q) m).1 := by
  cases q with
  | present => exact h.unhindered.present.symm
  | gl c =>
      cases c with
      | createShader stage =>
          show Except.ok (m.gl.issued + 1) = (x.gl.createShader stage).1.map n.handle
          rw [Memory.createShader_ok (h.unhindered.unbarred.stage stage), h.next]
          rfl
      | createProgram =>
          show Except.ok (m.gl.issued + 1) = x.gl.createProgram.1.map n.handle
          rw [Memory.createProgram_ok h.unhindered.unbarred.programs, h.next]
          rfl
      | createBuffer =>
          show Except.ok (m.gl.issued + 1) = x.gl.createBuffer.1.map n.handle
          rw [Memory.createBuffer_ok h.unhindered.unbarred.buffers, h.next]
          rfl
      | compileStatus shader =>
          obtain ⟨stage, hlookup, hgood⟩ := (Option.any_eq_true _ _).mp fits
          show decide (m.gl.script.compileStatus (m.gl.stage (shader + n.shift)) = 1) = _
          rw [staged.stage hlookup]
          exact (eq_of_beq hgood).symm
      | shaderLog shader =>
          obtain ⟨stage, hlookup, hlog⟩ := (Option.any_eq_true _ _).mp fits
          show m.gl.script.compileLog (m.gl.stage (shader + n.shift)) = _
          rw [staged.stage hlookup]
          exact (eq_of_beq hlog).symm
      | linkStatus program | programLog program | attribLocation program name =>
          exact (eq_of_beq fits).symm
      | uniformLocation program name =>
          show Native.location? (m.gl.script.uniforms name) =
            (x.gl.uniformLocation program name).map n.place
          rw [place]
          exact Memory.location?_uniforms (eq_of_beq fits)
      | readRgba width height => trivial
      | _ => rfl

/-- **Two surfaces that agree still agree after an answer.**  No answer is needed for this, as
neither side's state depends on what it said. -/
theorem Paired.after (h : Paired n.shift x m) (q : Request String) :
    Paired n.shift (plain.answer q x).2 (NativeSurface.recorded.answer (n.request q) m).2 := by
  refine ⟨?_, h.unhindered.answer q, ?_⟩
  · cases q with
    | gl c => exact h.view
    | present =>
        show _ = plain.view x.present.2
        rw [present, h.unhindered.shown]
        exact h.view
  · cases q with
    | gl c =>
        show (Native.answer (n.call c) m.gl).2.issued = (Memory.answer c x.gl).2.issued + n.shift
        rw [Native.issued_answer, h.unhindered.unbarred.issued_answer, n.makes_call, h.issued,
          Nat.add_right_comm]
    | present =>
        show m.gl.issued = x.present.2.gl.issued + n.shift
        rw [present_gl, h.issued]

/-- A shader that is made is known with its stage. -/
theorem Staged.after (staged : Staged n.shift stages m) (h : Paired n.shift x m)
    (q : Request String) :
    Staged n.shift (Exchange.staged ⟨q, (plain.answer q x).1⟩ ++ stages)
      (NativeSurface.recorded.answer (n.request q) m).2 := by
  cases q with
  | present => exact staged
  | gl c =>
      cases c with
      | createShader stage =>
          have hmade : (plain.answer (.gl (.createShader stage)) x).1 = .ok (x.gl.issued + 1) :=
            congrArg Prod.fst (Memory.createShader_ok (h.unhindered.unbarred.stage stage))
          rw [hmade]
          intro shader stage' hlookup
          show ((m.gl.issued + 1, stage) :: m.gl.stages).lookup (n.handle shader) = some stage'
          rw [h.next]
          by_cases hnew : shader = x.gl.issued + 1
          · subst hnew
            rw [Exchange.staged, List.singleton_append, List.lookup_cons_self] at hlookup
            rw [List.lookup_cons_self, hlookup]
          · -- an older shader has another number under both names
            have hne : n.handle shader ≠ n.handle (x.gl.issued + 1) :=
              fun heq => hnew (n.handle_injective heq)
            rw [Exchange.staged, List.singleton_append, List.lookup_cons,
              beq_false_of_ne hnew] at hlookup
            rw [List.lookup_cons, beq_false_of_ne hne]
            exact staged shader stage' hlookup
      | _ => exact staged

end MemorySurface

/-! ## Frames that are shown -/

/-- The library shows a frame only when it is asked to. -/
theorem Surface.Exchange.request_of_present_mem {e : Exchange Int} (h : .present ∈ e.commands) :
    e.request = .present := by
  unfold commands at h
  split at h
  all_goals first | rfl | simp at h

namespace MemorySurface

/-- A surface in memory counts the frames that it shows. -/
theorem shown_answer (q : Request String) (x : MemorySurface) :
    (plain.answer q x).2.shown =
      x.shown + if Exchange.shows ⟨q, (plain.answer q x).1⟩ then 1 else 0 := by
  cases q with
  | gl c => rfl
  | present =>
      show x.present.2.shown = x.shown + if Exchange.shows ⟨.present, x.present.1⟩ then 1 else 0
      unfold present
      split <;> rfl

/-- A surface in memory counts the frames that are shown in a conversation. -/
theorem shown_run {α : Type} (r : Routine String α) (x : MemorySurface) :
    (r.run plain x).2.shown = x.shown + (r.said plain x).countP Exchange.shows := by
  refine Routine.said_induction
    (P := fun x said x' => x'.shown = x.shown + said.countP Exchange.shows) (fun _ => rfl) ?_ r x
  intro q x said x' h
  rw [h, shown_answer, List.countP_cons, Nat.add_assoc, Nat.add_comm (List.countP _ _)]

/-- **The library is told to show a frame just where one is shown in memory.** -/
theorem Unhindered.marks {α : Type} (n : Renaming) (r : Routine String α) {x : MemorySurface}
    (h : x.Unhindered) :
    ∀ e ∈ r.said plain x, .present ∈ (n.exchange e).commands ↔ e.shows := by
  refine Routine.said_induction
    (P := fun x said _ => x.Unhindered →
      ∀ e ∈ said, .present ∈ (n.exchange e).commands ↔ e.shows) ?_ ?_ r x h
  · intro _ _ e he
    exact absurd he List.not_mem_nil
  · intro q x said _ ih h
    refine List.forall_mem_cons.mpr ⟨?_, ih (h.answer q)⟩
    cases q with
    | present =>
        rw [h.present]
        exact iff_of_true (List.mem_singleton_self _) rfl
    | gl c =>
        refine iff_of_false (fun hmark => ?_) Bool.false_ne_true
        cases Exchange.request_of_present_mem hmark

end MemorySurface

/-! ## Twins on two surfaces -/

namespace Routine

variable {α β : Type} {R : α → β → Prop} {n : Renaming}

/-- **Twins run alike on surfaces that agree**: their results are related, the surfaces still agree,
and the library is told what the context in memory is told, under the other names.  What is asked of
the script speaks of the conversation in memory alone, so that it can be settled before the library
is asked anything. -/
theorem Twin.run {r : Routine String α} {r' : Routine Int β} (h : Twin n R r r')
    {x : MemorySurface} {m : NativeSurface} {stages : List (Handle × Stage)}
    (paired : MemorySurface.Paired n.shift x m) (place : n.place = m.gl.script.uniforms)
    (staged : MemorySurface.Staged n.shift stages m)
    (repeats : m.gl.script.repeats stages (r.said MemorySurface.plain x)) :
    R (r.run MemorySurface.plain x).1 (r'.run NativeSurface.recorded m).1 ∧
      MemorySurface.Paired n.shift (r.run MemorySurface.plain x).2
        (r'.run NativeSurface.recorded m).2 ∧
      (r'.said NativeSurface.recorded m).flatMap Exchange.commands =
        (r.said MemorySurface.plain x).flatMap fun e => (n.exchange e).commands := by
  induction h generalizing x m stages with
  | done related => exact ⟨related, paired, rfl⟩
  | @ask q next next' _ ih =>
      obtain ⟨fits, repeats⟩ := Bool.and_eq_true_iff.mp repeats
      have hagree := paired.agree place staged q fits
      have hscript := (NativeSurface.heard_answer (n.request q) m).script
      -- the answers agree, and so do the surfaces that they leave
      obtain ⟨related, paired', htold⟩ := ih _ _ hagree (paired.after q)
        (place.trans (congrArg Native.Script.uniforms hscript.symm)) (staged.after paired q)
        (hscript ▸ repeats)
      refine ⟨related, paired', ?_⟩
      exact congr (congrArg _ (n.commands_of_agree hagree)) htold

end Routine

/-! ## Scripts for attempts -/

/-- A script has the answers in a conversation, whatever shaders there are when it starts. -/
def Gl.Native.Script.Knows (s : Native.Script) (said : List (Exchange String)) : Prop :=
  ∀ stages, s.repeats stages said

theorem Gl.Native.Script.Knows.append {s : Native.Script} {said said' : List (Exchange String)}
    (h : s.Knows said) (h' : s.Knows said') : s.Knows (said ++ said') := by
  intro stages
  have hsaid := h stages
  clear h
  induction said generalizing stages with
  | nil => exact h' stages
  | cons e said ih =>
      obtain ⟨hfits, hsaid⟩ := Bool.and_eq_true_iff.mp hsaid
      exact Bool.and_eq_true_iff.mpr ⟨hfits, ih _ hsaid⟩

/-- The number that stands for a place, which may be none. -/
def Gl.Native.number (place : Option Nat) : Int := place.elim (-1) Int.ofNat

theorem Gl.Native.location?_number (place : Option Nat) :
    location? (number place) = place.map Int.ofNat := by
  cases place with
  | none => rfl
  | some i => exact if_neg (Int.not_lt.mpr (Int.natCast_nonneg i))

namespace Frame

variable {said : List (Exchange String)} {source : String}

/-- A compilation asks for one status and one log. -/
theorem Compiling.exists_answers {stage : Stage} {result : Except Canvas.Failure Handle}
    (h : Compiling stage source said result) :
    ∃ status log, ∀ s : Native.Script, s.compileStatus stage = status → s.compileLog stage = log →
      s.Knows said := by
  cases h with
  | refused reason =>
      refine ⟨1, "", fun s _ _ stages => ?_⟩
      simp [Native.Script.repeats, Native.Script.fits]
  | accepted shader =>
      refine ⟨1, "", fun s hstatus _ stages => ?_⟩
      simp [Native.Script.repeats, Native.Script.fits, Exchange.staged, hstatus]
  | rejected shader log =>
      refine ⟨0, log, fun s hstatus hlog stages => ?_⟩
      simp [Native.Script.repeats, Native.Script.fits, Exchange.staged, hstatus, hlog]

/-- A link asks for one status and one log. -/
theorem Linking.exists_answers {vertex fragment : Handle} {result : Except Canvas.Failure Handle}
    (h : Linking vertex fragment said result) :
    ∃ status log, ∀ s : Native.Script, s.linkStatus = status → s.linkLog = log → s.Knows said := by
  cases h with
  | refused reason =>
      refine ⟨1, "", fun s _ _ stages => ?_⟩
      simp [Native.Script.repeats, Native.Script.fits]
  | accepted program =>
      refine ⟨1, "", fun s hstatus _ stages => ?_⟩
      simp [Native.Script.repeats, Native.Script.fits, joining, hstatus]
  | rejected program log =>
      refine ⟨0, log, fun s hstatus hlog stages => ?_⟩
      simp [Native.Script.repeats, Native.Script.fits, joining, hstatus, hlog]

/-- There are answers for both stages at once. -/
theorem Compiling.exists_script {said' : List (Exchange String)} {source' : String}
    {result result' : Except Canvas.Failure Handle} (h : Compiling .vertex source said result)
    (h' : Compiling .fragment source' said' result') :
    ∃ s : Native.Script, ∀ t : Native.Script, t.compileStatus = s.compileStatus →
      t.compileLog = s.compileLog → t.Knows said ∧ t.Knows said' := by
  obtain ⟨status, log, hknows⟩ := h.exists_answers
  obtain ⟨status', log', hknows'⟩ := h'.exists_answers
  let s : Native.Script :=
    { compileStatus := fun stage => if stage = .vertex then status else status'
      compileLog := fun stage => if stage = .vertex then log else log' }
  refine ⟨s, fun t hstatus hlog => ⟨hknows t ?_ ?_, hknows' t ?_ ?_⟩⟩
  all_goals first | exact congrFun hstatus _ | exact congrFun hlog _

/-- There are answers for the making of a program, whatever is answered about places. -/
theorem Assembling.exists_script {result : Except Canvas.Failure Handle}
    (h : Assembling source said result) :
    ∃ s : Native.Script, ∀ attribs uniforms, { s with attribs, uniforms }.Knows said := by
  cases h with
  | noVertex vertexStage =>
      obtain ⟨status, log, hknows⟩ := vertexStage.exists_answers
      exact ⟨{ compileStatus := fun _ => status, compileLog := fun _ => log },
        fun _ _ => hknows _ rfl rfl⟩
  | noFragment vertexStage fragmentStage =>
      obtain ⟨s, hknows⟩ := vertexStage.exists_script fragmentStage
      refine ⟨s, fun attribs uniforms => ?_⟩
      obtain ⟨hvertex, hfragment⟩ := hknows { s with attribs, uniforms } rfl rfl
      exact hvertex.append (hfragment.append fun _ => rfl)
  | joined vertexStage fragmentStage link =>
      obtain ⟨s, hknows⟩ := vertexStage.exists_script fragmentStage
      obtain ⟨linkStatus, linkLog, hlink⟩ := link.exists_answers
      refine ⟨{ s with linkStatus, linkLog }, fun attribs uniforms => ?_⟩
      obtain ⟨hvertex, hfragment⟩ :=
        hknows { s with linkStatus, linkLog, attribs, uniforms } rfl rfl
      exact hvertex.append (hfragment.append ((hlink _ rfl rfl).append fun _ => rfl))

/-- There are answers about the places that a program is fed at. -/
theorem exists_places (view : View) (program buffer : Handle) (position : Option Nat)
    (resolution time : Option String) :
    ∃ attribs uniforms, ∀ s : Native.Script,
      { s with attribs, uniforms }.Knows
        (feeding view program buffer position resolution time) := by
  -- any number does for a uniform that is there
  refine ⟨fun _ => Native.number position, fun name =>
    Native.number ((if name = Shader.resolution then resolution else time).map fun _ => 0),
    fun s stages => ?_⟩
  have hother : Shader.time ≠ Shader.resolution := by decide
  cases position <;> cases resolution <;> cases time <;>
    simp [feeding, Native.Script.repeats, Native.Script.fits, Native.location?_number, hother]

/-- **Any attempt in memory can be had over a native library**: some script has all the answers.  So
the condition of `Twin.run` can be met whatever an attempt comes to, and is no condition on the
source. -/
theorem Attempting.exists_script {view : View} {rectangle : Option Handle} {capture : Bool}
    {outcome : Except Canvas.Failure Pixels × Option Handle}
    (h : Attempting view rectangle source capture said outcome) :
    ∃ s : Native.Script, s.Knows said := by
  cases h with
  | noContext => exact ⟨{}, fun _ => rfl⟩
  | noProgram _ failed =>
      obtain ⟨s, hknows⟩ := failed.exists_script
      exact ⟨s, hknows s.attribs s.uniforms⟩
  | noRectangle _ assembled =>
      obtain ⟨s, hknows⟩ := assembled.exists_script
      exact ⟨s, (hknows s.attribs s.uniforms).append fun _ => rfl⟩
  | @finished _ _ _ program buffer _ _ assembled holding position resolution time painting shown =>
      obtain ⟨s, hknows⟩ := assembled.exists_script
      obtain ⟨attribs, uniforms, hplaces⟩ :=
        exists_places view program buffer position resolution time
      refine ⟨{ s with attribs, uniforms }, (hknows attribs uniforms).append
        (Native.Script.Knows.append ?_ ((hplaces s).append
          (Native.Script.Knows.append ?_ fun _ => rfl)))⟩
      · cases holding <;> exact fun _ => rfl
      · cases painting <;> exact fun _ => rfl

end Frame

end ShaderSketch
