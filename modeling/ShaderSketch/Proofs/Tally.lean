import ShaderSketch.Canvas.MemorySurface
import ShaderSketch.Proofs.Ledger

/-!
# The context in memory and its ledger

The context in memory keeps tables of live objects.  As long as it is only asked about live objects,
its tables hold what the ledger of the conversation says, and it refuses nothing.

## Main definitions

* `Gl.Table.handles`, `Gl.Ledger.handles` — the handles in a table, and those of one kind in a
  ledger
* `Gl.Memory.Tallies` — the tables hold what a ledger says

## Main results

`Gl.Memory.Tallies.answer` : a sound call keeps the tables in step with the ledger, under every
script, and is not refused.
-/

namespace ShaderSketch.Gl

open Surface

/-! ## Handles -/

namespace Table

variable {α : Type}

/-- The handles in a table. -/
def handles (t : Table α) : List Handle := t.entries.map (·.1)

@[simp] theorem handles_insert (t : Table α) (h : Handle) (a : α) :
    (t.insert h a).handles = h :: t.handles := rfl

@[simp] theorem handles_modify (t : Table α) (h : Handle) (f : α → α) :
    (t.modify h f).handles = t.handles := by
  unfold handles modify
  rw [List.map_map]
  refine List.map_congr_left fun entry _ => ?_
  simp only [Function.comp_apply]
  split <;> rfl

@[simp] theorem handles_erase (t : Table α) (h : Handle) :
    (t.erase h).handles = t.handles.filter (· ≠ h) := by
  simp [handles, erase, List.filter_map, Function.comp_def]

theorem size_eq (t : Table α) : t.size = t.handles.length := by
  simp [size, handles]

/-- A table has an object for each of its handles. -/
theorem contains_iff (t : Table α) (h : Handle) : t.contains h ↔ h ∈ t.handles := by
  obtain ⟨entries⟩ := t
  induction entries with
  | nil => simp [contains, get?, handles]
  | cons entry entries ih =>
      simp only [contains, get?, handles] at ih ⊢
      rw [List.lookup_cons]
      by_cases heq : h = entry.1
      · simp [heq]
      · simp [heq, beq_false_of_ne heq, ih]

end Table

namespace Ledger

variable {l : Ledger} {o : Object} {kind : Kind}

/-- The handles of the live objects of a kind. -/
def handles (kind : Kind) (l : Ledger) : List Handle :=
  (l.live.filter (·.kind = kind)).map (·.handle)

theorem mem_handles {h : Handle} : h ∈ l.handles kind ↔ ⟨kind, h⟩ ∈ l.live := by
  simp only [handles, List.mem_map, List.mem_filter, decide_eq_true_eq]
  constructor
  · rintro ⟨o, ⟨ho, rfl⟩, rfl⟩
    exact ho
  · intro ho
    exact ⟨_, ⟨ho, rfl⟩, rfl⟩

theorem handles_add :
    (l.add o).handles kind =
      if o.kind = kind then o.handle :: l.handles kind else l.handles kind := by
  unfold handles
  split <;> simp [*]

theorem handles_drop :
    (l.drop o).handles kind =
      if o.kind = kind then (l.handles kind).filter (· ≠ o.handle) else l.handles kind := by
  simp only [handles, drop, List.filter_map, List.filter_filter]
  split
  · -- objects of one kind are told apart by their handles
    refine congrArg _ (List.filter_congr fun o' _ => ?_)
    obtain ⟨kind', h'⟩ := o'
    obtain ⟨kind₀, h⟩ := o
    grind
  · refine congrArg _ (List.filter_congr fun o' _ => ?_)
    grind

end Ledger

/-! ## Tables and ledgers -/

namespace Memory

/-- The tables of a context hold the live objects of a ledger, and the same program is current.  The
two are compared in order, so that nothing has to be said of how often a handle occurs. -/
structure Tallies (m : Memory) (l : Ledger) : Prop where
  shaders : m.shaders.handles = l.handles .shader
  programs : m.programs.handles = l.handles .program
  buffers : m.buffers.handles = l.handles .buffer
  current : m.current = l.current

/-- A context that starts tallies with a ledger that starts. -/
theorem tallies_start {m : Memory} (h : m = {}) : m.Tallies {} := by
  subst h
  exact ⟨rfl, rfl, rfl, rfl⟩

variable {m : Memory} {l : Ledger} {h : Handle}

theorem Tallies.contains_shader (tally : m.Tallies l) :
    m.shaders.contains h ↔ ⟨.shader, h⟩ ∈ l.live := by
  rw [Table.contains_iff, tally.shaders, Ledger.mem_handles]

theorem Tallies.contains_program (tally : m.Tallies l) :
    m.programs.contains h ↔ ⟨.program, h⟩ ∈ l.live := by
  rw [Table.contains_iff, tally.programs, Ledger.mem_handles]

theorem Tallies.contains_buffer (tally : m.Tallies l) :
    m.buffers.contains h ↔ ⟨.buffer, h⟩ ∈ l.live := by
  rw [Table.contains_iff, tally.buffers, Ledger.mem_handles]

/-- What a call leaves alone that neither makes nor deletes anything: the handles in the tables, the
current program, and the count of refusals.  Most calls are of this kind, and they are told from the
others here and not in every proof about them. -/
structure Same (m m' : Memory) : Prop where
  shaders : m'.shaders.handles = m.shaders.handles
  programs : m'.programs.handles = m.programs.handles
  buffers : m'.buffers.handles = m.buffers.handles
  current : m'.current = m.current
  refusals : m'.refusals = m.refusals

theorem Same.trans {m m' m'' : Memory} (h : Same m m') (h' : Same m' m'') : Same m m'' where
  shaders := h'.shaders.trans h.shaders
  programs := h'.programs.trans h.programs
  buffers := h'.buffers.trans h.buffers
  current := h'.current.trans h.current
  refusals := h'.refusals.trans h.refusals

theorem same_refl : Same m m := ⟨rfl, rfl, rfl, rfl, rfl⟩

theorem same_shaders {shaders : Table Shader} {compiled : List (Stage × String)}
    (h : shaders.handles = m.shaders.handles) : Same m { m with shaders, compiled } :=
  ⟨h, rfl, rfl, rfl, rfl⟩

theorem same_programs {programs : Table Program} (h : programs.handles = m.programs.handles) :
    Same m { m with programs } :=
  ⟨rfl, h, rfl, rfl, rfl⟩

/-- Recording anything but a refusal changes nothing that counts. -/
theorem same_record {e : Event} (h : ∀ entry, e ≠ .invalidHandle entry) : Same m (m.record e) := by
  refine ⟨rfl, rfl, rfl, rfl, ?_⟩
  unfold refusals record
  rw [List.countP_append]
  cases e with
  | invalidHandle entry => exact absurd rfl (h entry)
  | _ => rfl

theorem same_compileShader (hshader : m.shaders.contains h) : Same m (m.compileShader h) := by
  obtain ⟨shader, hget⟩ := Option.isSome_iff_exists.mp hshader
  unfold compileShader
  rw [hget]
  exact (same_shaders (Table.handles_modify _ _ _)).trans (same_record fun _ => by simp)

theorem same_linkProgram (hprogram : m.programs.contains h) : Same m (m.linkProgram h) := by
  obtain ⟨program, hget⟩ := Option.isSome_iff_exists.mp hprogram
  unfold linkProgram
  rw [hget]
  exact (same_programs (Table.handles_modify _ _ _)).trans (same_record fun _ => by simp)

theorem same_attachShader {program shader : Handle} (hprogram : m.programs.contains program)
    (hshader : m.shaders.contains shader) : Same m (m.attachShader program shader) := by
  unfold attachShader
  rw [if_pos (by simp [hprogram, hshader])]
  exact same_programs (Table.handles_modify _ _ _)

theorem same_detachShader {program shader : Handle} (hprogram : m.programs.contains program) :
    Same m (m.detachShader program shader) := by
  unfold detachShader
  rw [if_pos hprogram]
  exact same_programs (Table.handles_modify _ _ _)

theorem same_uploadArrayBuffer {data : List UInt8} (hbuffer : m.buffers.contains h) :
    Same m (m.uploadArrayBuffer h data) := by
  unfold uploadArrayBuffer
  rw [if_pos hbuffer]
  exact (same_record fun _ => by simp).trans (same_record fun _ => by simp)

theorem same_bindArrayBuffer {buffer : Option Handle}
    (hbuffer : ∀ h ∈ buffer, m.buffers.contains h) : Same m (m.bindArrayBuffer buffer) := by
  unfold bindArrayBuffer
  rw [if_pos (by simpa [Option.all_eq_true] using hbuffer)]
  exact same_record fun _ => by simp

/-- Such a call keeps the tables in step with a ledger that it does not change. -/
theorem Tallies.of_same {m' : Memory} {l' : Ledger} (tally : m.Tallies l) (same : Same m m')
    (live : l'.live = l.live) (current : l'.current = l.current) :
    m'.Tallies l' ∧ m'.refusals = m.refusals := by
  have hhandles (kind : Kind) : l'.handles kind = l.handles kind := by
    rw [Ledger.handles, live, Ledger.handles]
  refine ⟨⟨?_, ?_, ?_, ?_⟩, same.refusals⟩
  · rw [same.shaders, tally.shaders, hhandles]
  · rw [same.programs, tally.programs, hhandles]
  · rw [same.buffers, tally.buffers, hhandles]
  · rw [same.current, tally.current, current]

/-- The ledger also keeps which buffer is bound and which were filled; the tables do not. -/
theorem Tallies.of_live {l' : Ledger} (tally : m.Tallies l) (live : l'.live = l.live)
    (current : l'.current = l.current) : m.Tallies l' :=
  (tally.of_same same_refl live current).1

/-- A new shader is in the table and in the ledger. -/
theorem Tallies.createShader (tally : m.Tallies l) (stage : Stage) :
    (m.createShader stage).2.Tallies
        (l.after (ℓ := String) ⟨.gl (.createShader stage), (m.createShader stage).1⟩) ∧
      (m.createShader stage).2.refusals = m.refusals := by
  unfold Memory.createShader
  split
  · exact ⟨tally, rfl⟩
  · refine ⟨⟨?_, ?_, ?_, tally.current⟩, rfl⟩ <;>
      simp [Ledger.after, Ledger.handles_add, tally.shaders, tally.programs, tally.buffers]

/-- A new program is in the table and in the ledger. -/
theorem Tallies.createProgram (tally : m.Tallies l) :
    m.createProgram.2.Tallies (l.after (ℓ := String) ⟨.gl .createProgram, m.createProgram.1⟩) ∧
      m.createProgram.2.refusals = m.refusals := by
  unfold Memory.createProgram
  split
  · exact ⟨tally, rfl⟩
  · refine ⟨⟨?_, ?_, ?_, tally.current⟩, rfl⟩ <;>
      simp [Ledger.after, Ledger.handles_add, tally.shaders, tally.programs, tally.buffers]

/-- A new buffer is in the table and in the ledger. -/
theorem Tallies.createBuffer (tally : m.Tallies l) :
    m.createBuffer.2.Tallies (l.after (ℓ := String) ⟨.gl .createBuffer, m.createBuffer.1⟩) ∧
      m.createBuffer.2.refusals = m.refusals := by
  unfold Memory.createBuffer
  split
  · exact ⟨tally, rfl⟩
  · refine ⟨Tallies.of_live (l := l.add ⟨.buffer, m.issued + 1⟩) ?_ rfl rfl, rfl⟩
    refine ⟨?_, ?_, ?_, tally.current⟩ <;>
      simp [Ledger.handles_add, tally.shaders, tally.programs, tally.buffers]

/-- A deleted shader is neither in the table nor in the ledger. -/
theorem Tallies.deleteShader (tally : m.Tallies l) (hshader : ⟨.shader, h⟩ ∈ l.live) :
    (m.deleteShader h).Tallies (l.drop ⟨.shader, h⟩) ∧
      (m.deleteShader h).refusals = m.refusals := by
  unfold Memory.deleteShader
  rw [if_pos (tally.contains_shader.mpr hshader)]
  refine ⟨⟨?_, ?_, ?_, tally.current⟩, rfl⟩ <;>
    simp [Ledger.handles_drop, tally.shaders, tally.programs, tally.buffers]

/-- A deleted program is neither in the table nor in the ledger. -/
theorem Tallies.deleteProgram (tally : m.Tallies l) (hprogram : ⟨.program, h⟩ ∈ l.live) :
    (m.deleteProgram h).Tallies (l.drop ⟨.program, h⟩) ∧
      (m.deleteProgram h).refusals = m.refusals := by
  unfold Memory.deleteProgram
  rw [if_pos (tally.contains_program.mpr hprogram)]
  refine ⟨⟨?_, ?_, ?_, tally.current⟩, rfl⟩ <;>
    simp [Ledger.handles_drop, tally.shaders, tally.programs, tally.buffers]

/-- A deleted buffer is neither in the table nor in the ledger. -/
theorem Tallies.deleteBuffer (tally : m.Tallies l) (hbuffer : ⟨.buffer, h⟩ ∈ l.live) :
    (m.deleteBuffer h).Tallies (l.drop ⟨.buffer, h⟩) ∧
      (m.deleteBuffer h).refusals = m.refusals := by
  unfold Memory.deleteBuffer
  rw [if_pos (tally.contains_buffer.mpr hbuffer)]
  refine ⟨⟨?_, ?_, ?_, tally.current⟩, rfl⟩ <;>
    simp [Ledger.handles_drop, tally.shaders, tally.programs, tally.buffers]

/-- The program that a sound call makes current is current in the ledger. -/
theorem Tallies.useProgram {program : Option Handle} (tally : m.Tallies l)
    (hprogram : ∀ h ∈ program, m.programs.contains h) :
    (m.useProgram program).Tallies { l with current := program } ∧
      (m.useProgram program).refusals = m.refusals := by
  unfold Memory.useProgram
  rw [if_pos (by simpa [Option.all_eq_true] using hprogram)]
  have same := same_record (m := { m with current := program }) (e := .useProgram program)
    fun _ => by simp
  exact ⟨⟨tally.shaders, tally.programs, tally.buffers, rfl⟩, same.refusals⟩

/-- **A sound call keeps the tables in step with the ledger**, whatever the script answers, and it
is not refused.  Soundness is asked of this call only: what the call names is live, and what draws
has a program.  This is what a ledger says of each call of a sound conversation. -/
theorem Tallies.answer (tally : m.Tallies l) (s : Script) (call : Call String)
    (named : ∀ o ∈ Exchange.named ⟨.gl call, (s.answer call m).1⟩, o ∈ l.live)
    (draws : Exchange.draws ⟨.gl call, (s.answer call m).1⟩ → l.current.isSome) :
    (s.answer call m).2.Tallies (l.after ⟨.gl call, (s.answer call m).1⟩) ∧
      (s.answer call m).2.refusals = m.refusals := by
  cases call with
  | createShader stage =>
      simp only [Script.answer]
      split
      · exact ⟨tally, rfl⟩
      · exact tally.createShader stage
  | createProgram => exact tally.createProgram
  | createBuffer => exact tally.createBuffer
  -- what is deleted is named, so it is in the table and the call is not refused
  | deleteShader h => exact tally.deleteShader (named _ List.mem_cons_self)
  | deleteProgram h => exact tally.deleteProgram (named _ List.mem_cons_self)
  | deleteBuffer h =>
      obtain ⟨tally', hrefusals⟩ := tally.deleteBuffer (named _ List.mem_cons_self)
      exact ⟨tally'.of_live rfl rfl, hrefusals⟩
  | useProgram program =>
      refine tally.useProgram fun h hh => tally.contains_program.mpr (named _ ?_)
      exact List.mem_map.mpr ⟨h, Option.mem_toList.mpr hh, rfl⟩
  -- the calls that change an object, or nothing but the record of events
  | shaderSource h text =>
      exact tally.of_same (same_shaders (Table.handles_modify _ _ _)) rfl rfl
  | compileShader h =>
      exact tally.of_same
        (same_compileShader (tally.contains_shader.mpr (named _ List.mem_cons_self))) rfl rfl
  | linkProgram h =>
      exact tally.of_same
        (same_linkProgram (tally.contains_program.mpr (named _ List.mem_cons_self))) rfl rfl
  | attachShader program shader =>
      have hprogram := named ⟨.program, program⟩ List.mem_cons_self
      have hshader := named ⟨.shader, shader⟩ (List.mem_cons_of_mem _ List.mem_cons_self)
      exact tally.of_same (same_attachShader (tally.contains_program.mpr hprogram)
        (tally.contains_shader.mpr hshader)) rfl rfl
  | detachShader program shader =>
      exact tally.of_same
        (same_detachShader (tally.contains_program.mpr (named _ List.mem_cons_self))) rfl rfl
  | uploadArrayBuffer h data =>
      exact tally.of_same
        (same_uploadArrayBuffer (tally.contains_buffer.mpr (named _ List.mem_cons_self))) rfl rfl
  | bindArrayBuffer buffer =>
      refine tally.of_same (same_bindArrayBuffer fun h hh => ?_) rfl rfl
      exact tally.contains_buffer.mpr
        (named _ (List.mem_map.mpr ⟨h, Option.mem_toList.mpr hh, rfl⟩))
  | drawTriangleStrip first count =>
      -- drawing names nothing, and is refused without a program all the same
      have hcurrent : m.current.isSome := tally.current ▸ draws rfl
      simp only [Script.answer, Memory.answer, if_pos hcurrent]
      exact tally.of_same (same_record fun _ => by simp) rfl rfl
  | floatAttribPointer _ _ | uniformVec2 _ _ _ | uniformFloat _ _ | viewport _ _ | clearColor _
  | readRgba _ _ =>
      exact tally.of_same (same_record fun _ => by simp) rfl rfl
  | compileStatus _ | shaderLog _ | linkStatus _ | programLog _ | attribLocation _ _
  | uniformLocation _ _ => exact ⟨tally, rfl⟩

end Memory

end ShaderSketch.Gl
