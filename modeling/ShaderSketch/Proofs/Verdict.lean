import Mathlib.Data.Bool.Basic
import ShaderSketch.Canvas.MemorySurface
import ShaderSketch.Proofs.Counting
import ShaderSketch.Proofs.Preamble

/-!
# Verdicts of the context in memory

An attempt to draw a frame on a surface in memory, where nothing is going to fail, ends with what
the context says of two texts: that of the vertex stage and what is compiled for the source.

## Main definitions

* `Gl.Memory.Unbarred`, `MemorySurface.Unhindered` — nothing is going to fail
* `Gl.Memory.compileNew`, `Gl.Memory.linkNew` — the context with one more shader or program
* `Frame.judgement` — the judgement on a text

## Main results

* `MemorySurface.run_compiled`, `MemorySurface.run_linked` : compiling and linking end with the
  verdict of the context
* `MemorySurface.run_attempt` : an attempt ends with the judgement on what is compiled
-/

namespace ShaderSketch

open Surface

variable {σ ℓ α β : Type}

/-! ## Running routines -/

namespace Routine

theorem run_bind (s : Surface σ ℓ) (r : Routine ℓ α) (f : α → Routine ℓ β) (x : σ) :
    (r >>= f).run s x = (f (r.run s x).1).run s (r.run s x).2 := by
  change (r.bind f).run s x = _
  induction r generalizing x with
  | done a => rfl
  | ask request next ih => exact ih _ _

theorem run_call_bind (s : Surface σ ℓ) (c : Gl.Call ℓ) (f : c.Answer → Routine ℓ β) (x : σ) :
    (call c >>= f).run s x = (f (s.answer (.gl c) x).1).run s (s.answer (.gl c) x).2 := rfl

theorem run_present_bind (s : Surface σ ℓ) (f : Except Canvas.Failure Unit → Routine ℓ β) (x : σ) :
    (present >>= f).run s x = (f (s.answer .present x).1).run s (s.answer .present x).2 := rfl

end Routine

/-! ## The context in memory -/

namespace Gl

namespace Table

variable {α : Type}

theorem get?_insert_self (t : Table α) (h : Handle) (a : α) : (t.insert h a).get? h = some a :=
  List.lookup_cons_self

theorem get?_insert_of_ne (t : Table α) {h k : Handle} (a : α) (hne : k ≠ h) :
    (t.insert h a).get? k = t.get? k := by
  unfold get? insert
  rw [List.lookup_cons, beq_false_of_ne hne]

theorem get?_modify (t : Table α) (h : Handle) (f : α → α) (k : Handle) :
    (t.modify h f).get? k = if k = h then (t.get? k).map f else t.get? k := by
  obtain ⟨entries⟩ := t
  unfold get? modify
  induction entries with
  | nil => simp
  | cons entry entries ih =>
      obtain ⟨key, a⟩ := entry
      grind

end Table

namespace Memory

/-- A context that no object is barred in.  In a context that bars nothing every creation succeeds,
so that what comes of an attempt is up to its source. -/
structure Unbarred (m : Memory) : Prop where
  shaders : m.barredStage = none
  programs : m.barsPrograms = false
  buffers : m.barsBuffers = false

/-- No call bars anything, or lifts a bar. -/
theorem bars_answer (call : Call String) (m : Memory) :
    (Memory.answer call m).2.barredStage = m.barredStage ∧
      (Memory.answer call m).2.barsPrograms = m.barsPrograms ∧
      (Memory.answer call m).2.barsBuffers = m.barsBuffers := by
  cases call <;>
    simp only [Memory.answer, createShader, createProgram, createBuffer, compileShader,
      deleteShader, attachShader, detachShader, linkProgram, useProgram, deleteProgram,
      uploadArrayBuffer, bindArrayBuffer, deleteBuffer] <;>
    (repeat' split) <;> trivial

theorem Unbarred.answer {m : Memory} (h : m.Unbarred) (call : Call String) :
    (Memory.answer call m).2.Unbarred := by
  obtain ⟨hshaders, hprograms, hbuffers⟩ := bars_answer call m
  exact ⟨hshaders.trans h.shaders, hprograms.trans h.programs, hbuffers.trans h.buffers⟩

/-- No stage is barred in particular. -/
theorem Unbarred.stage {m : Memory} (h : m.Unbarred) (stage : Stage) :
    m.barredStage ≠ some stage := by
  rw [h.shaders]
  exact (Option.some_ne_none stage).symm

theorem createShader_ok {m : Memory} {stage : Stage} (h : m.barredStage ≠ some stage) :
    m.createShader stage =
      (.ok (m.issued + 1),
        { m with
          issued := m.issued + 1
          shaders := m.shaders.insert (m.issued + 1) { stage } }) := by
  rw [createShader, if_neg h]

theorem createProgram_ok {m : Memory} (h : m.barsPrograms = false) :
    m.createProgram =
      (.ok (m.issued + 1),
        { m with
          issued := m.issued + 1
          programs := m.programs.insert (m.issued + 1) {} }) := by
  rw [createProgram, h, if_neg Bool.false_ne_true]

theorem createBuffer_ok {m : Memory} (h : m.barsBuffers = false) :
    m.createBuffer =
      (.ok (m.issued + 1),
        { m with
          issued := m.issued + 1
          buffers := m.buffers.insert (m.issued + 1) ()
          buffersMade := m.buffersMade + 1 }) := by
  rw [createBuffer, h, if_neg Bool.false_ne_true]

/-- The context with one more shader, compiled from a source. -/
def compileNew (m : Memory) (stage : Stage) (source : String) : Memory :=
  let m' := (Memory.answer (.shaderSource (m.issued + 1) source) (m.createShader stage).2).2
  m'.compileShader (m.issued + 1)

/-- The context with one more program, linked from two shaders. -/
def linkNew (m : Memory) (vertex fragment : Handle) : Memory :=
  let p := m.issued + 1
  let m' := (m.createProgram.2.attachShader p vertex).attachShader p fragment
  ((m'.linkProgram p).detachShader p vertex).detachShader p fragment

/-- A new shader has the verdict on its source, and the others stay as they are. -/
theorem compileNew_spec {m : Memory} {stage : Stage} (h : m.barredStage ≠ some stage)
    (source : String) :
    (m.compileNew stage source).issued = m.issued + 1 ∧
      (m.compileNew stage source).shaders.get? (m.issued + 1) =
        some ⟨stage, source, some (verdict source)⟩ ∧
      ∀ k, k ≠ m.issued + 1 →
        (m.compileNew stage source).shaders.get? k = m.shaders.get? k := by
  have hget : ((m.shaders.insert (m.issued + 1) { stage }).modify (m.issued + 1)
      ({ · with source })).get? (m.issued + 1) = some { stage, source } := by
    rw [Table.get?_modify, if_pos rfl, Table.get?_insert_self]
    rfl
  unfold compileNew
  rw [createShader_ok h]
  dsimp only [Memory.answer]
  unfold compileShader
  simp only [hget]
  refine ⟨rfl, ?_, fun k hk => ?_⟩
  · change (Table.modify _ _ _).get? _ = _
    rw [Table.get?_modify, if_pos rfl, hget]
    rfl
  · change (Table.modify _ _ _).get? _ = _
    rw [Table.get?_modify, if_neg hk, Table.get?_modify, if_neg hk, Table.get?_insert_of_ne _ _ hk]

theorem compileStatus_of_get? {m : Memory} {s : Handle} {shader : Shader}
    (h : m.shaders.get? s = some shader) :
    (Memory.answer (.compileStatus s) m).1 = passed shader.compiled := by
  change ((m.shaders.get? s).map _).getD _ = _
  rw [h]
  rfl

theorem shaderLog_of_get? {m : Memory} {s : Handle} {shader : Shader}
    (h : m.shaders.get? s = some shader) :
    (Memory.answer (.shaderLog s) m).1 = log shader.compiled := by
  change ((m.shaders.get? s).map _).getD _ = _
  rw [h]
  rfl

theorem linkStatus_of_get? {m : Memory} {p : Handle} {program : Program}
    (h : m.programs.get? p = some program) :
    (Memory.answer (.linkStatus p) m).1 = passed program.linked := by
  change ((m.programs.get? p).map _).getD _ = _
  rw [h]
  rfl

theorem programLog_of_get? {m : Memory} {p : Handle} {program : Program}
    (h : m.programs.get? p = some program) :
    (Memory.answer (.programLog p) m).1 = log program.linked := by
  change ((m.programs.get? p).map _).getD _ = _
  rw [h]
  rfl

theorem attachShader_of_get? {m : Memory} {p s : Handle} {program : Program} {shader : Shader}
    (hp : m.programs.get? p = some program) (hs : m.shaders.get? s = some shader) :
    (m.attachShader p s).programs.get? p =
        some { program with attached := program.attached ++ [s] } ∧
      (m.attachShader p s).shaders = m.shaders := by
  rw [attachShader, if_pos (by simp [Table.contains, hp, hs]), Table.get?_modify, if_pos rfl, hp]
  exact ⟨rfl, rfl⟩

theorem linkProgram_of_get? {m : Memory} {p : Handle} {program : Program}
    (h : m.programs.get? p = some program) :
    (m.linkProgram p).programs.get? p = some (m.link program) := by
  unfold linkProgram
  simp only [h]
  change (m.programs.modify p _).get? p = _
  rw [Table.get?_modify, if_pos rfl, h]
  rfl

/-- A program keeps its verdict when its shaders go. -/
theorem detachShader_of_get? {m : Memory} {p s : Handle} {program : Program}
    (h : m.programs.get? p = some program) :
    ∃ program', (m.detachShader p s).programs.get? p = some program' ∧
      program'.linked = program.linked := by
  rw [detachShader, if_pos (by simp [Table.contains, h]), Table.get?_modify, if_pos rfl, h]
  exact ⟨_, rfl, rfl⟩

/-- A new program has the verdict on the sources of its shaders. -/
theorem linkNew_spec {m : Memory} (h : m.barsPrograms = false) {vertex fragment : Handle}
    {vertexSource fragmentSource : String}
    (hvertex : m.shaders.get? vertex = some ⟨.vertex, vertexSource, some (.ok ())⟩)
    (hfragment : m.shaders.get? fragment = some ⟨.fragment, fragmentSource, some (.ok ())⟩) :
    ∃ program, (m.linkNew vertex fragment).programs.get? (m.issued + 1) = some program ∧
      program.linked = some (checkStages vertexSource.toList fragmentSource.toList) := by
  have hcreate : (m.createProgram.2).programs.get? (m.issued + 1) = some {} ∧
      m.createProgram.2.shaders = m.shaders := by
    rw [createProgram_ok h]
    exact ⟨Table.get?_insert_self _ _ _, rfl⟩
  unfold linkNew
  dsimp only
  generalize m.issued + 1 = p at hcreate ⊢
  generalize m.createProgram.2 = m₁ at hcreate ⊢
  obtain ⟨hget₁, hshaders₁⟩ := hcreate
  obtain ⟨hget₂, hshaders₂⟩ := attachShader_of_get? hget₁ (hshaders₁ ▸ hvertex)
  generalize m₁.attachShader p vertex = m₂ at hget₂ hshaders₂ ⊢
  obtain ⟨hget₃, hshaders₃⟩ :=
    attachShader_of_get? hget₂ (by rw [hshaders₂, hshaders₁]; exact hfragment)
  generalize m₂.attachShader p fragment = m₃ at hget₃ hshaders₃ ⊢
  -- both shaders are found again among those attached
  have hlink : (m₃.link { attached := [vertex, fragment] }).linked =
      some (checkStages vertexSource.toList fragmentSource.toList) := by
    have hshaders : m₃.shaders = m.shaders := by rw [hshaders₃, hshaders₂, hshaders₁]
    simp [link, attachedSource?, hshaders, hvertex, hfragment, passed]
  obtain ⟨program₄, hget₄, hlinked₄⟩ :=
    detachShader_of_get? (s := vertex) (linkProgram_of_get? hget₃)
  obtain ⟨program₅, hget₅, hlinked₅⟩ := detachShader_of_get? (s := fragment) hget₄
  exact ⟨program₅, hget₅, (hlinked₅.trans hlinked₄).trans hlink⟩

end Memory

end Gl

/-! ## The surface in memory -/

/-- The judgement on a text: what the compiler finds in it, and then how it fits to the vertex
stage. -/
def Frame.judgement (text : List Char) : Except Canvas.Failure Unit :=
  match Gl.checkBrackets text with
  | .error e => .error (.compilation .fragment e.message)
  | .ok _ => (Gl.checkStages Shader.vertexSource.toList text).mapError .linking

namespace MemorySurface

open ShaderSketch.Frame Routine

/-- A surface with a context, in which nothing is going to fail.  It is kept by all that a canvas
does, so that it need only be asked for at the start of a life. -/
structure Unhindered (m : MemorySurface) : Prop where
  context : m.hasContext = true
  unbarred : m.gl.Unbarred
  shown : m.nextFailure = none

/-- The surface over another context. -/
def holding (m : MemorySurface) (gl : Gl.Memory) : MemorySurface := { m with gl }

theorem holding_gl (m : MemorySurface) (gl : Gl.Memory) : (m.holding gl).gl = gl := rfl

theorem holding_holding (m : MemorySurface) (gl gl' : Gl.Memory) :
    (m.holding gl).holding gl' = m.holding gl' := rfl

theorem plain_gl (c : Gl.Call String) (m : MemorySurface) :
    plain.answer (.gl c) m =
      ((Gl.Memory.answer c m.gl).1, m.holding (Gl.Memory.answer c m.gl).2) := rfl

theorem Unhindered.answer {m : MemorySurface} (h : m.Unhindered) (request : Request String) :
    (plain.answer request m).2.Unhindered := by
  cases request with
  | gl call => exact ⟨h.context, h.unbarred.answer call, h.shown⟩
  | present =>
      have hpresent : m.present = (.ok (), { m with shown := m.shown + 1 }) := by
        rw [present, h.shown]
      change m.present.2.Unhindered
      rw [hpresent]
      exact ⟨h.context, h.unbarred, h.shown⟩

theorem Unhindered.present {m : MemorySurface} (h : m.Unhindered) :
    (plain.answer .present m).1 = .ok () := by
  change m.present.1 = _
  rw [MemorySurface.present, h.shown]

theorem Unhindered.run {m : MemorySurface} (h : m.Unhindered) (r : Routine String α) :
    (r.run plain m).2.Unhindered :=
  r.run_induction (P := Unhindered) (fun request _ hx => hx.answer request) h

/-- Nothing is compiled where no shader is to be had. -/
theorem run_compiled_refused {m : MemorySurface} {stage : Gl.Stage}
    (h : m.gl.barredStage = some stage) (source : String) :
    (compiled stage source).run plain m =
      (.error (.allocation (.shader stage)
        ("out of memory allocating " ++ stage.name ++ " shader")), m) := by
  have hcreate : m.gl.createShader stage =
      (.error ("out of memory allocating " ++ stage.name ++ " shader"), m.gl) := if_pos h
  rw [compiled, run_call_bind, plain_gl, Gl.Memory.answer, hcreate]
  rfl

/-- Compiling a source ends with the verdict on it. -/
theorem run_compiled {m : MemorySurface} {stage : Gl.Stage} (h : m.gl.barredStage ≠ some stage)
    (source : String) :
    (compiled stage source).run plain m =
      match Gl.Memory.verdict source with
      | .ok _ => (.ok (m.gl.issued + 1), m.holding (m.gl.compileNew stage source))
      | .error log =>
        (.error (.compilation stage log),
          m.holding ((m.gl.compileNew stage source).deleteShader (m.gl.issued + 1))) := by
  obtain ⟨-, hget, -⟩ := Gl.Memory.compileNew_spec h source
  have hcreate : (plain.answer (.gl (.createShader stage)) m).1 = .ok (m.gl.issued + 1) :=
    congrArg Prod.fst (Gl.Memory.createShader_ok h)
  have hstatus := Gl.Memory.compileStatus_of_get? hget
  have hlog := Gl.Memory.shaderLog_of_get? hget
  rw [compiled, run_call_bind, hcreate]
  -- the source is given and compiled before anybody asks for the verdict
  change ((call (.compileStatus (m.gl.issued + 1)) >>= _ : Routine String _).run plain
    (m.holding (m.gl.compileNew stage source))) = _
  rw [run_call_bind, plain_gl, holding_gl, holding_holding, hstatus]
  cases hverdict : Gl.Memory.verdict source with
  | ok _ => rfl
  | error log =>
      rw [hverdict] at hlog
      change ((call (.shaderLog (m.gl.issued + 1)) >>= _ : Routine String _).run plain
        (m.holding (m.gl.compileNew stage source))) = _
      rw [run_call_bind, plain_gl, holding_gl, hlog]
      rfl

/-- Compiling a source that passes gives a shader with it, and leaves the others. -/
theorem run_compiled_of_ok {m : MemorySurface} (h : m.Unhindered) (stage : Gl.Stage)
    {source : String} (hverdict : Gl.Memory.verdict source = .ok ()) :
    ∃ m' : MemorySurface, (compiled stage source).run plain m = (.ok (m.gl.issued + 1), m') ∧
      m'.Unhindered ∧ m'.gl.issued = m.gl.issued + 1 ∧
      m'.gl.shaders.get? (m.gl.issued + 1) = some ⟨stage, source, some (.ok ())⟩ ∧
      ∀ k, k ≠ m.gl.issued + 1 → m'.gl.shaders.get? k = m.gl.shaders.get? k := by
  obtain ⟨hissued, hget, hframe⟩ := Gl.Memory.compileNew_spec (h.unbarred.stage stage) source
  have hrun := run_compiled (h.unbarred.stage stage) source
  have hend := h.run (compiled stage source)
  rw [hverdict] at hrun hget
  rw [hrun] at hend
  exact ⟨_, hrun, hend, hissued, hget, hframe⟩

/-- Linking two shaders ends with the verdict on their sources. -/
theorem run_linked {m : MemorySurface} (h : m.gl.barsPrograms = false)
    {vertex fragment : Gl.Handle} {vertexSource fragmentSource : String}
    (hvertex : m.gl.shaders.get? vertex = some ⟨.vertex, vertexSource, some (.ok ())⟩)
    (hfragment : m.gl.shaders.get? fragment = some ⟨.fragment, fragmentSource, some (.ok ())⟩) :
    (linked vertex fragment).run plain m =
      match Gl.checkStages vertexSource.toList fragmentSource.toList with
      | .ok _ => (.ok (m.gl.issued + 1), m.holding (m.gl.linkNew vertex fragment))
      | .error log =>
        (.error (.linking log),
          m.holding ((m.gl.linkNew vertex fragment).deleteProgram (m.gl.issued + 1))) := by
  obtain ⟨program, hget, hlinked⟩ := Gl.Memory.linkNew_spec h hvertex hfragment
  have hcreate : (plain.answer (.gl .createProgram) m).1 = .ok (m.gl.issued + 1) :=
    congrArg Prod.fst (Gl.Memory.createProgram_ok h)
  -- both shaders are attached, linked and detached before anybody asks for the verdict
  have hjoined : (plain.answer (.gl (.detachShader (m.gl.issued + 1) fragment))
      (plain.answer (.gl (.detachShader (m.gl.issued + 1) vertex))
        (plain.answer (.gl (.linkProgram (m.gl.issued + 1)))
          (plain.answer (.gl (.attachShader (m.gl.issued + 1) fragment))
            (plain.answer (.gl (.attachShader (m.gl.issued + 1) vertex))
              (plain.answer (.gl .createProgram) m).2).2).2).2).2).2 =
        m.holding (m.gl.linkNew vertex fragment) := by
    simp only [plain_gl, holding_gl, holding_holding]
    rfl
  have hstatus := Gl.Memory.linkStatus_of_get? hget
  have hlog := Gl.Memory.programLog_of_get? hget
  rw [linked, run_call_bind, hcreate]
  dsimp only
  rw [run_call_bind, run_call_bind, run_call_bind, run_call_bind, run_call_bind, hjoined,
    run_call_bind]
  rw [plain_gl, holding_gl, holding_holding]
  generalize m.gl.linkNew vertex fragment = g at hstatus hlog
  rw [hstatus, hlinked]
  rw [hlinked] at hlog
  cases hverdict : Gl.checkStages vertexSource.toList fragmentSource.toList with
  | ok _ => rfl
  | error log =>
      rw [hverdict] at hlog
      change ((call (.programLog (m.gl.issued + 1)) >>= _ : Routine String _).run plain
        (m.holding g)) = _
      rw [run_call_bind, plain_gl, holding_gl, hlog]
      rfl

/-- The vertex stage passes. -/
theorem verdict_vertexSource : Gl.Memory.verdict Shader.vertexSource = .ok () := by
  decide

/-- Making a program for a source ends with the verdict on it. -/
theorem run_assembled {m : MemorySurface} (h : m.Unhindered) (source : String) :
    ((assembled source).run plain m).1.map (fun _ => ()) =
      judgement (Shader.prepare source).toList := by
  obtain ⟨m₁, hrun₁, h₁, hissued, hvertex, -⟩ := run_compiled_of_ok h .vertex verdict_vertexSource
  rw [assembled, run_bind, hrun₁, judgement]
  dsimp only
  rw [run_bind]
  cases hcheck : Gl.checkBrackets (Shader.prepare source).toList with
  | error e =>
      rw [run_compiled (h₁.unbarred.stage .fragment), Gl.Memory.verdict, hcheck]
      rfl
  | ok _ =>
      have hverdict : Gl.Memory.verdict (Shader.prepare source) = .ok () := by
        rw [Gl.Memory.verdict, hcheck]
        rfl
      obtain ⟨m₂, hrun₂, h₂, -, hfragment, hframe⟩ := run_compiled_of_ok h₁ .fragment hverdict
      -- the vertex stage is not the newer one of the two
      have hold := hframe (m.gl.issued + 1) (by omega)
      rw [hrun₂]
      dsimp only
      rw [run_bind, run_linked h₂.unbarred.programs (hold.trans hvertex) hfragment]
      cases Gl.checkStages Shader.vertexSource.toList (Shader.prepare source).toList with
      | ok _ => rfl
      | error log => rfl

/-- There is a buffer for the rectangle. -/
theorem run_takeRectangle {m : MemorySurface} (h : m.Unhindered) (rectangle : Option Gl.Handle) :
    ∃ buffer, ((takeRectangle rectangle).run plain m).1 = .ok buffer := by
  cases rectangle with
  | some buffer => exact ⟨buffer, rfl⟩
  | none =>
      have hcreate : (plain.answer (.gl .createBuffer) m).1 = .ok (m.gl.issued + 1) :=
        congrArg Prod.fst (Gl.Memory.createBuffer_ok h.unbarred.buffers)
      rw [takeRectangle, run_call_bind, hcreate]
      exact ⟨_, rfl⟩

/-- **An attempt ends with the verdict on its source.**  The rectangle makes no difference: a canvas
that has none gets one, as nothing is barred. -/
theorem run_attempt {m : MemorySurface} (h : m.Unhindered) (rectangle : Option Gl.Handle)
    (source : String) (capture : Bool) :
    ((Frame.attempt (plain.view m) rectangle source capture).run plain m).1.1.map (fun _ => ()) =
      judgement (Shader.prepare source).toList := by
  rw [Frame.attempt, if_pos (show (plain.view m).hasContext from h.context), attemptOn, run_bind,
    ← run_assembled h source]
  have h₁ := h.run (assembled source)
  generalize (assembled source).run plain m = outcome at h₁ ⊢
  obtain ⟨result, m₁⟩ := outcome
  cases result with
  | error e => rfl
  | ok program =>
      obtain ⟨buffer, hbuffer⟩ := run_takeRectangle h₁ rectangle
      have h₂ := h₁.run (takeRectangle rectangle)
      dsimp only
      rw [run_bind, hbuffer]
      dsimp only
      -- nothing is left that could fail but to show the frame
      rw [run_bind, run_bind, run_call_bind]
      have h₃ := ((h₂.run (bindInputs (plain.view m) program buffer)).run
        (paint (plain.view m) capture)).answer (.gl (.deleteProgram program))
      rw [run_present_bind, h₃.present]
      rfl

end MemorySurface

end ShaderSketch
