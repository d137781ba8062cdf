import ShaderSketch.Proofs.Tally
import ShaderSketch.Proofs.Verdict

/-!
# Making a program in memory

What the routine that makes a program for a source comes to on a surface in memory, whatever is
barred there, and what it leaves behind.

## Main definitions

* `Frame.Traces` — the objects that were made, and the texts and events that were recorded
* `Frame.traces` — the traces of an attempt, by its result
* `Gl.Memory.assembly` — what making a program is going to come to
* `Gl.Memory.work` — the context while a program is made

## Main results

* `Frame.forall_mem_traces` : what holds of verdicts holds of all events among traces
* `Gl.Memory.compileNew_work`, `Gl.Memory.linkNew_work` : what one shader and one program add
* `MemorySurface.run_assembled_eq` : making a program comes to what was forecast, and leaves its
  traces and the program

## Design notes

While a program is made, the context differs from what it was before by traces and by its two
tables.  So every state on the way is a `Gl.Memory.work` of the first one, and every call is a
lemma from one such state to the next.
-/

namespace ShaderSketch

open Surface

variable {α : Type}

/-! ## Tables -/

namespace Gl

namespace Table

variable {t : Table α} {h : Handle}

theorem ne_of_mem_entries (fresh : h ∉ t.handles) {entry : Nat × α} (hentry : entry ∈ t.entries) :
    entry.1 ≠ h :=
  fun heq => fresh (heq ▸ List.mem_map_of_mem hentry)

/-- An object that was just added is the only one that is changed under its handle. -/
theorem modify_insert (fresh : h ∉ t.handles) (a : α) (f : α → α) :
    (t.insert h a).modify h f = t.insert h (f a) := by
  rw [modify, insert, List.map_cons]
  refine congrArg Table.mk (congrArg₂ List.cons (if_pos rfl) ?_)
  refine (List.map_congr_left fun entry hentry => ?_).trans (List.map_id _)
  exact if_neg (ne_of_mem_entries fresh hentry)

/-- Adding an object and taking it away again leaves the table as it was. -/
theorem erase_insert (fresh : h ∉ t.handles) (a : α) : (t.insert h a).erase h = t := by
  have hrest : t.entries.filter (·.1 ≠ h) = t.entries :=
    List.filter_eq_self.mpr fun entry hentry =>
      decide_eq_true (ne_of_mem_entries fresh hentry)
  rw [insert, erase, List.filter_cons_of_neg (by simp), hrest]

theorem erase_insert_of_ne {k : Handle} (hne : h ≠ k) (a : α) :
    (t.insert h a).erase k = (t.erase k).insert h a := by
  rw [insert, erase, List.filter_cons_of_pos (by simpa using hne)]
  rfl

theorem contains_insert (t : Table α) (h : Handle) (a : α) : (t.insert h a).contains h := by
  rw [contains, get?_insert_self]
  rfl

end Table

/-! ## Building a program -/

namespace Memory

variable {m : Memory}

/-- The program that two sources are linked to, when it is left without its shaders. -/
def joined (vertex fragment : String) : Program where
  linked := some (checkStages vertex.toList fragment.toList)
  attributes := declaredNames "attribute" vertex.toList
  uniforms := declaredNames "uniform" vertex.toList ++ declaredNames "uniform" fragment.toList

theorem passed_some (result : Except String Unit) : passed (some result) = result.isOk := by
  cases result <;> rfl

theorem compileNew_eq {stage : Stage} (h : m.barredStage ≠ some stage)
    (fresh : m.issued + 1 ∉ m.shaders.handles) (source : String) :
    m.compileNew stage source =
      { m with
        issued := m.issued + 1
        shaders := m.shaders.insert (m.issued + 1) ⟨stage, source, some (verdict source)⟩
        compiled := m.compiled ++ [(stage, source)]
        events := m.events ++ [.compileShader stage (verdict source).isOk] } := by
  unfold compileNew
  rw [createShader_ok h]
  simp only [Memory.answer, Table.modify_insert fresh, compileShader, Table.get?_insert_self]
  rfl

/-- What linking two shaders that compiled comes to, if the next number is one that no program has.
-/
theorem linkNew_eq (h : m.barsPrograms = false) (fresh : m.issued + 1 ∉ m.programs.handles)
    {vertex fragment : Handle} {vertexSource fragmentSource : String}
    (hvertex : m.shaders.get? vertex = some ⟨.vertex, vertexSource, some (.ok ())⟩)
    (hfragment : m.shaders.get? fragment = some ⟨.fragment, fragmentSource, some (.ok ())⟩) :
    m.linkNew vertex fragment =
      { m with
        issued := m.issued + 1
        programs := m.programs.insert (m.issued + 1) (joined vertexSource fragmentSource)
        events := m.events ++
          [.linkProgram (checkStages vertexSource.toList fragmentSource.toList).isOk] } := by
  have hattached : m.shaders.contains vertex ∧ m.shaders.contains fragment := by
    simp [Table.contains, hvertex, hfragment]
  unfold linkNew
  rw [createProgram_ok h]
  simp [attachShader, linkProgram, detachShader, hattached, Table.contains_insert,
    Table.modify_insert fresh, Table.get?_insert_self, link, attachedSource?, hvertex, hfragment,
    passed, record]
  exact ⟨rfl, passed_some _⟩

end Memory

end Gl

/-! ## What an attempt leaves behind -/

namespace Frame

open Gl

/-- What an attempt leaves in the context before it draws: how many objects it made, and the texts
and events that are recorded of it.  Traces are put together with `++`, in the order of the calls,
and so are those of an attempt from those of its parts. -/
structure Traces where
  objects : Nat := 0
  texts : List (Stage × String) := []
  events : List Event := []

/-- Traces after traces. -/
instance : Append Traces where
  append t t' := ⟨t.objects + t'.objects, t.texts ++ t'.texts, t.events ++ t'.events⟩

/-- The texts of a stage among traces. -/
def Traces.textsOf (t : Traces) (stage : Stage) : List String :=
  t.texts.filterMap fun (s, source) => if s = stage then some source else none

@[simp] theorem Traces.textsOf_append (t t' : Traces) (stage : Stage) :
    (t ++ t').textsOf stage = t.textsOf stage ++ t'.textsOf stage := List.filterMap_append

@[simp] theorem Traces.mem_events_append {t t' : Traces} {e : Event} :
    e ∈ (t ++ t').events ↔ e ∈ t.events ∨ e ∈ t'.events := List.mem_append

/-- The traces of a shader. -/
def shaderTraces (stage : Stage) (source : String) (good : Bool) : Traces :=
  ⟨1, [(stage, source)], [.compileShader stage good]⟩

/-- The traces of a program. -/
def programTraces (good : Bool) : Traces := ⟨1, [], [.linkProgram good]⟩

/-- The traces of an attempt, by its result: how far it got, and what stopped it.  The first failure
decides what there is, so that one line stands for each place at which an attempt can end. -/
def traces (source : String) : Except Canvas.Failure Unit → Traces
  | .error .noContext | .error (.allocation (.shader .vertex) _) => {}
  | .error (.allocation (.shader .fragment) _) => shaderTraces .vertex Shader.vertexSource true
  | .error (.compilation .vertex _) => shaderTraces .vertex Shader.vertexSource false
  | .error (.compilation .fragment _) =>
    shaderTraces .vertex Shader.vertexSource true ++
      shaderTraces .fragment (Shader.prepare source) false
  | .error (.allocation .program _) =>
    shaderTraces .vertex Shader.vertexSource true ++
      shaderTraces .fragment (Shader.prepare source) true
  | .error (.linking _) =>
    shaderTraces .vertex Shader.vertexSource true ++
      shaderTraces .fragment (Shader.prepare source) true ++ programTraces false
  | .error (.allocation .rectangle _) | .error (.showing _) | .ok _ =>
    shaderTraces .vertex Shader.vertexSource true ++
      shaderTraces .fragment (Shader.prepare source) true ++ programTraces true

/-- **An attempt records nothing but verdicts before it draws**, so that what holds of verdicts
holds of all events among its traces. -/
theorem forall_mem_traces {P : Event → Prop}
    (compiled : ∀ stage good, P (.compileShader stage good))
    (linked : ∀ good, P (.linkProgram good)) (source : String)
    (result : Except Canvas.Failure Unit) : ∀ e ∈ (traces source result).events, P e := by
  unfold traces
  split <;> simp [shaderTraces, programTraces, compiled, linked, or_imp, forall_and]

/-- There is no room for a shader. -/
def noShader (stage : Stage) : Canvas.Failure :=
  .allocation (.shader stage) ("out of memory allocating " ++ stage.name ++ " shader")

/-- There is no room for a program. -/
def noProgram : Canvas.Failure := .allocation .program "out of memory allocating program"

/-- There is no room for the rectangle. -/
def noRectangle : Canvas.Failure := .allocation .rectangle "out of memory allocating buffer"

end Frame

namespace Gl.Memory

open ShaderSketch.Frame

/-- The context with traces. -/
def traced (g : Memory) (t : Traces) : Memory :=
  { g with
    issued := g.issued + t.objects
    compiled := g.compiled ++ t.texts
    events := g.events ++ t.events }

/-- The context while a program is made: traces were left since, and the tables are as given.  The
two tables are the only part that shrinks again, when shaders and programs are deleted, which is why
they are given and not traced. -/
def work (g : Memory) (t : Traces) (shaders : Table Shader) (programs : Table Program) : Memory :=
  { g.traced t with shaders, programs }

variable {g : Memory} {t : Traces} {shaders : Table Shader} {programs : Table Program}
  {h k : Handle}

/-- Traces are left one after the other. -/
theorem traced_append (g : Memory) (t t' : Traces) :
    g.traced (t ++ t') = (g.traced t).traced t' := by
  simp only [traced, List.append_assoc, Nat.add_assoc]
  rfl

theorem work_start (hshaders : g.shaders = {}) (hprograms : g.programs = {}) :
    g.work {} {} {} = g := by
  simp [work, traced, ← hshaders, ← hprograms]

theorem compileNew_work {stage : Stage} (h : g.barredStage ≠ some stage)
    (fresh : g.issued + t.objects + 1 ∉ shaders.handles) (source : String) :
    (g.work t shaders programs).compileNew stage source =
      g.work (t ++ shaderTraces stage source (verdict source).isOk)
        (shaders.insert (g.issued + t.objects + 1) ⟨stage, source, some (verdict source)⟩)
        programs := by
  rw [compileNew_eq (show (g.work t shaders programs).barredStage ≠ some stage from h) fresh, work,
    work, traced_append]
  rfl

theorem deleteShader_work (fresh : h ∉ shaders.handles) (shader : Shader) :
    (g.work t (shaders.insert h shader) programs).deleteShader h = g.work t shaders programs := by
  have hcontains : (g.work t (shaders.insert h shader) programs).shaders.contains h :=
    Table.contains_insert _ _ _
  rw [deleteShader, if_pos hcontains]
  exact congrArg (g.work t · programs) (Table.erase_insert fresh shader)

/-- Deleting the older of two shaders. -/
theorem deleteShader_work_below (hne : k ≠ h) (fresh : h ∉ shaders.handles)
    (shader shader' : Shader) :
    (g.work t ((shaders.insert h shader).insert k shader') programs).deleteShader h =
      g.work t (shaders.insert k shader') programs := by
  have hcontains :
      (g.work t ((shaders.insert h shader).insert k shader') programs).shaders.contains h := by
    show ((shaders.insert h shader).insert k shader').contains h
    rw [Table.contains, Table.get?_insert_of_ne _ _ hne.symm]
    exact Table.contains_insert shaders h shader
  rw [deleteShader, if_pos hcontains]
  refine congrArg (g.work t · programs) ?_
  show ((shaders.insert h shader).insert k shader').erase h = _
  rw [Table.erase_insert_of_ne hne, Table.erase_insert fresh]

theorem deleteProgram_of_insert {program : Program}
    (hprograms : g.programs = programs.insert h program) (fresh : h ∉ programs.handles) :
    g.deleteProgram h = { g with programs } := by
  rw [deleteProgram, hprograms, if_pos (Table.contains_insert _ _ _), Table.erase_insert fresh]

theorem deleteProgram_work (fresh : h ∉ programs.handles) (program : Program) :
    (g.work t shaders (programs.insert h program)).deleteProgram h =
      g.work t shaders programs :=
  deleteProgram_of_insert rfl fresh

theorem linkNew_work (hprograms : g.barsPrograms = false)
    (fresh : g.issued + t.objects + 1 ∉ programs.handles) {vertex fragment : Handle}
    {vertexSource fragmentSource : String}
    (hvertex : shaders.get? vertex = some ⟨.vertex, vertexSource, some (.ok ())⟩)
    (hfragment : shaders.get? fragment = some ⟨.fragment, fragmentSource, some (.ok ())⟩) :
    (g.work t shaders programs).linkNew vertex fragment =
      g.work
        (t ++ programTraces (checkStages vertexSource.toList fragmentSource.toList).isOk) shaders
        (programs.insert (g.issued + t.objects + 1) (joined vertexSource fragmentSource)) := by
  rw [linkNew_eq (show (g.work t shaders programs).barsPrograms = false from hprograms) fresh
    hvertex hfragment, work, work, traced_append]
  simp [traced, programTraces]

/-- What making a program for a source comes to. -/
def assembly (g : Memory) (source : String) : Except Canvas.Failure Unit :=
  if g.barredStage = some .vertex then .error (noShader .vertex)
  else if g.barredStage = some .fragment then .error (noShader .fragment)
  else
    match verdict (Shader.prepare source) with
    | .error log => .error (.compilation .fragment log)
    | .ok _ =>
      if g.barsPrograms then .error noProgram
      else (checkStages Shader.vertexSource.toList (Shader.prepare source).toList).mapError .linking

end Gl.Memory

namespace MemorySurface

open ShaderSketch.Frame Routine Gl

variable {m : MemorySurface} {stage : Stage} {source : String}

/-! ## Making a program -/

/-- The surface while a program is made. -/
def atWork (m : MemorySurface) (t : Traces) (shaders : Table Memory.Shader)
    (programs : Table Memory.Program) : MemorySurface :=
  m.holding (m.gl.work t shaders programs)

variable {t : Traces} {shaders : Table Memory.Shader} {programs : Table Memory.Program}

theorem run_compiled_barred (h : m.gl.barredStage = some stage) (source : String) :
    (compiled stage source).run plain (m.atWork t shaders programs) =
      (.error (noShader stage), m.atWork t shaders programs) :=
  run_compiled_refused (m := m.atWork t shaders programs) h source

/-- A source that compiles leaves its traces and a shader. -/
theorem run_compiled_ok (h : m.gl.barredStage ≠ some stage)
    (fresh : m.gl.issued + t.objects + 1 ∉ shaders.handles)
    (hverdict : Memory.verdict source = .ok ()) {shader : Handle}
    (hshader : m.gl.issued + t.objects + 1 = shader) :
    (compiled stage source).run plain (m.atWork t shaders programs) =
      (.ok shader,
        m.atWork (t ++ shaderTraces stage source true)
          (shaders.insert shader ⟨stage, source, some (.ok ())⟩) programs) := by
  subst hshader
  have hrun := run_compiled (m := m.atWork t shaders programs) h source
  rw [atWork, holding_gl, Memory.compileNew_work h fresh, hverdict] at hrun
  exact hrun

/-- A source that does not compile leaves its traces alone. -/
theorem run_compiled_error (h : m.gl.barredStage ≠ some stage)
    (fresh : m.gl.issued + t.objects + 1 ∉ shaders.handles) {log : String}
    (hverdict : Memory.verdict source = .error log) :
    (compiled stage source).run plain (m.atWork t shaders programs) =
      (.error (.compilation stage log),
        m.atWork (t ++ shaderTraces stage source false) shaders programs) := by
  have hrun := run_compiled (m := m.atWork t shaders programs) h source
  rw [atWork, holding_gl, Memory.compileNew_work h fresh, hverdict] at hrun
  exact hrun.trans (congrArg (fun g => (_, m.holding g)) (Memory.deleteShader_work fresh _))

theorem run_deleteShader {β : Type} {h : Handle} (fresh : h ∉ shaders.handles)
    (shader : Memory.Shader) (f : Unit → Routine String β) :
    (call (.deleteShader h) >>= f).run plain (m.atWork t (shaders.insert h shader) programs) =
      (f ()).run plain (m.atWork t shaders programs) := by
  rw [run_call_bind, plain_gl, atWork, holding_gl, Memory.answer,
    Memory.deleteShader_work fresh]
  rfl

theorem run_deleteShader_below {β : Type} {h k : Handle} (hne : k ≠ h)
    (fresh : h ∉ shaders.handles) (shader shader' : Memory.Shader) (f : Unit → Routine String β) :
    (call (.deleteShader h) >>= f).run plain
        (m.atWork t ((shaders.insert h shader).insert k shader') programs) =
      (f ()).run plain (m.atWork t (shaders.insert k shader') programs) := by
  rw [run_call_bind, plain_gl, atWork, holding_gl, Memory.answer,
    Memory.deleteShader_work_below hne fresh]
  rfl

theorem run_linked_barred (h : m.gl.barsPrograms = true) (vertex fragment : Handle) :
    (linked vertex fragment).run plain (m.atWork t shaders programs) =
      (.error noProgram, m.atWork t shaders programs) := by
  have hcreate : (m.gl.work t shaders programs).createProgram =
      (.error "out of memory allocating program", m.gl.work t shaders programs) := if_pos h
  rw [linked, run_call_bind, plain_gl, atWork, holding_gl, Memory.answer, hcreate]
  rfl

/-- Shaders that fit together leave a program. -/
theorem run_linked_ok (h : m.gl.barsPrograms = false)
    (fresh : m.gl.issued + t.objects + 1 ∉ programs.handles) {vertex fragment : Handle}
    {vertexSource fragmentSource : String}
    (hvertex : shaders.get? vertex = some ⟨.vertex, vertexSource, some (.ok ())⟩)
    (hfragment : shaders.get? fragment = some ⟨.fragment, fragmentSource, some (.ok ())⟩)
    (hcheck : checkStages vertexSource.toList fragmentSource.toList = .ok ()) {program : Handle}
    (hprogram : m.gl.issued + t.objects + 1 = program) :
    (linked vertex fragment).run plain (m.atWork t shaders programs) =
      (.ok program,
        m.atWork (t ++ programTraces true) shaders
          (programs.insert program (Memory.joined vertexSource fragmentSource))) := by
  subst hprogram
  have hrun := run_linked (m := m.atWork t shaders programs) h hvertex hfragment
  rw [atWork, holding_gl, Memory.linkNew_work h fresh hvertex hfragment, hcheck] at hrun
  exact hrun

/-- Shaders that do not fit together leave none. -/
theorem run_linked_error (h : m.gl.barsPrograms = false)
    (fresh : m.gl.issued + t.objects + 1 ∉ programs.handles) {vertex fragment : Handle}
    {vertexSource fragmentSource log : String}
    (hvertex : shaders.get? vertex = some ⟨.vertex, vertexSource, some (.ok ())⟩)
    (hfragment : shaders.get? fragment = some ⟨.fragment, fragmentSource, some (.ok ())⟩)
    (hcheck : checkStages vertexSource.toList fragmentSource.toList = .error log) :
    (linked vertex fragment).run plain (m.atWork t shaders programs) =
      (.error (.linking log), m.atWork (t ++ programTraces false) shaders programs) := by
  have hrun := run_linked (m := m.atWork t shaders programs) h hvertex hfragment
  rw [atWork, holding_gl, Memory.linkNew_work h fresh hvertex hfragment, hcheck] at hrun
  exact hrun.trans (congrArg (fun g => (_, m.holding g)) (Memory.deleteProgram_work fresh _))

/-- The shaders of an attempt, when both were compiled. -/
def pair (source : String) (vertex fragment : Handle) : Table Memory.Shader :=
  (Table.insert {} vertex ⟨.vertex, Shader.vertexSource, some (.ok ())⟩).insert fragment
    ⟨.fragment, Shader.prepare source, some (.ok ())⟩

theorem not_mem_handles_empty {α : Type} (h : Handle) : h ∉ (Table.mk [] : Table α).handles :=
  List.not_mem_nil

/-- Whatever comes of the link, both shaders are deleted again. -/
theorem run_deleteShaders {vertex fragment : Handle} (hne : fragment ≠ vertex)
    (result : Except Canvas.Failure Handle) :
    ((do
      call (.deleteShader vertex)
      call (.deleteShader fragment)
      return result : Routine String _)).run plain
        (m.atWork t (pair source vertex fragment) programs) =
      (result, m.atWork t {} programs) := by
  rw [pair, run_deleteShader_below hne (not_mem_handles_empty _),
    run_deleteShader (not_mem_handles_empty _)]
  rfl

/-- **Making a program for a source comes to what was forecast**, and leaves nothing but its traces
and the program, if there is one.  The tables are empty at first, so that none of the three numbers
which are given out is in them already, and both shaders can be taken out again as if they had never
been there. -/
theorem run_assembled_eq (m : MemorySurface) (source : String) :
    (assembled source).run plain (m.atWork {} {} {}) =
      match m.gl.assembly source with
      | .ok _ => (.ok (m.gl.issued + 3), m.atWork (traces source (.ok ())) {}
        (Table.insert {} (m.gl.issued + 3)
          (Memory.joined Shader.vertexSource (Shader.prepare source))))
      | .error e => (.error e, m.atWork (traces source (.error e)) {} {}) := by
  unfold Memory.assembly
  by_cases hvertex : m.gl.barredStage = some .vertex
  · rw [if_pos hvertex, assembled, run_bind, run_compiled_barred hvertex]
    rfl
  have hone : m.gl.issued + ({} : Traces).objects + 1 = m.gl.issued + 1 := rfl
  rw [if_neg hvertex, assembled, run_bind,
    run_compiled_ok hvertex (not_mem_handles_empty _) verdict_vertexSource hone]
  dsimp only
  rw [run_bind]
  by_cases hfragment : m.gl.barredStage = some .fragment
  · rw [if_pos hfragment, run_compiled_barred hfragment]
    exact run_deleteShader (not_mem_handles_empty _) _ _
  rw [if_neg hfragment]
  have hsecond : m.gl.issued + 2 ∉ (Table.insert {} (m.gl.issued + 1)
      (⟨.vertex, Shader.vertexSource, some (.ok ())⟩ : Memory.Shader)).handles := by
    rw [Table.handles_insert, List.mem_cons, not_or]
    exact ⟨by omega, not_mem_handles_empty _⟩
  cases hverdict : Memory.verdict (Shader.prepare source) with
  | error log =>
      rw [run_compiled_error hfragment hsecond hverdict]
      exact run_deleteShader (not_mem_handles_empty _) _ _
  | ok _ =>
      have htwo : m.gl.issued + ({} ++ shaderTraces .vertex Shader.vertexSource true).objects + 1 =
        m.gl.issued + 2 := rfl
      rw [run_compiled_ok hfragment hsecond hverdict htwo]
      dsimp only
      have hne : m.gl.issued + 1 ≠ m.gl.issued + 2 := by omega
      have hvertexGet : (pair source (m.gl.issued + 1) (m.gl.issued + 2)).get? (m.gl.issued + 1) =
          some ⟨.vertex, Shader.vertexSource, some (.ok ())⟩ :=
        (Table.get?_insert_of_ne _ _ hne).trans (Table.get?_insert_self _ _ _)
      have hfragmentGet : (pair source (m.gl.issued + 1) (m.gl.issued + 2)).get?
          (m.gl.issued + 2) = some ⟨.fragment, Shader.prepare source, some (.ok ())⟩ :=
        Table.get?_insert_self _ _ _
      rw [run_bind, ← pair]
      cases hprograms : m.gl.barsPrograms with
      | true =>
          rw [run_linked_barred hprograms]
          exact run_deleteShaders hne.symm _
      | false =>
          cases hcheck : checkStages Shader.vertexSource.toList (Shader.prepare source).toList with
          | error log =>
              rw [run_linked_error hprograms (not_mem_handles_empty _) hvertexGet hfragmentGet
                hcheck]
              exact run_deleteShaders hne.symm _
          | ok _ =>
              rw [run_linked_ok hprograms (not_mem_handles_empty _) hvertexGet hfragmentGet hcheck
                (show _ = m.gl.issued + 3 from rfl)]
              exact run_deleteShaders hne.symm _

end MemorySurface

end ShaderSketch
