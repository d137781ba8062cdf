import ShaderSketch.Proofs.Linkage

/-!
# Stray handles

A call may name a handle of which there is nothing: it was never given out, or what it named is
deleted.  Such a call leaves nothing behind but, at most, the event that it was refused.  Whatever
is done to the context afterwards, nobody can tell from the answers that the call was made.

## Main definitions

* `Gl.Memory.Strays` — whether a call names what is not there
* `Gl.Memory.Program.pruned` — a program without the shaders that are not there any more
* `Gl.Memory.LooksAlike` — two contexts that nobody can tell apart
* `Gl.Memory.Inert` — a call that makes no difference to what is done later
* `Gl.Memory.Registered` — what a context keeps of its objects

## Main results

* `Gl.Memory.LooksAlike.answer` : contexts that look alike give the same answers, and go on looking
  alike
* `Gl.Memory.looksAlike_of_strays` : after a call with a stray handle a context looks as before
* `Gl.Memory.objects_registered` : handles, counts and stray handles of everything that is done

## Design notes

A program still remembers a shader that was deleted while it was attached, and forgets it when the
two are detached.  So contexts that look alike need not be equal; but the handle is never given out
again, and linking looks at live shaders alone.
-/

namespace ShaderSketch.Gl

open Surface

/-! ## Tables, object by object -/

namespace Table

variable {α β : Type} {t : Table α} {f : α → α} {k : β → β} {g : α → β} {h : Handle}

/-- A table with every object turned into another. -/
def map (g : α → β) (t : Table α) : Table β := ⟨t.entries.map fun (h, a) => (h, g a)⟩

theorem get?_map (t : Table α) (g : α → β) (h : Handle) : (t.map g).get? h = (t.get? h).map g := by
  obtain ⟨entries⟩ := t
  unfold get? map
  induction entries with
  | nil => rfl
  | cons entry entries ih =>
      rw [List.map_cons, List.lookup_cons, List.lookup_cons]
      split
      · rfl
      · exact ih

theorem contains_map (t : Table α) (g : α → β) (h : Handle) :
    (t.map g).contains h = t.contains h := by
  rw [contains, get?_map, Option.isSome_map, contains]

theorem handles_map (t : Table α) (g : α → β) : (t.map g).handles = t.handles := by
  simp [handles, map]

theorem map_erase (t : Table α) (g : α → β) (h : Handle) :
    (t.erase h).map g = (t.map g).erase h := by
  simp [erase, map, List.filter_map, Function.comp_def]

/-- What is done to one object can be done after all were turned into others. -/
theorem map_modify (comm : ∀ a, g (f a) = k (g a)) (t : Table α) (h : Handle) :
    (t.modify h f).map g = (t.map g).modify h k := by
  simp only [modify, map, List.map_map]
  refine congrArg _ (List.map_congr_left fun entry _ => ?_)
  simp only [Function.comp_apply]
  split
  · rw [comm]
  · rfl

/-- Changing an object that is not there changes nothing. -/
theorem modify_of_not_contains (absent : ¬ t.contains h) (f : α → α) : t.modify h f = t := by
  obtain ⟨entries⟩ := t
  rw [contains_iff] at absent
  refine congrArg Table.mk ((List.map_congr_left fun entry hentry => ?_).trans (List.map_id _))
  exact if_neg fun heq => absent (List.mem_map.mpr ⟨entry, hentry, heq⟩)

theorem modify_id (t : Table α) (h : Handle) : t.modify h id = t := by
  simp [modify]

/-- Changing an object does not change which objects there are. -/
theorem contains_modify (t : Table α) (h : Handle) (f : α → α) :
    (t.modify h f).contains = t.contains := by
  funext k
  rw [Bool.eq_iff_iff, contains_iff, contains_iff, handles_modify]

end Table

/-- The name under which a call is refused that checks its handles. -/
def Call.entry? {ℓ : Type} : Call ℓ → Option Entry
  | .compileShader _ => some .compileShader
  | .deleteShader _ => some .deleteShader
  | .attachShader _ _ => some .attachShader
  | .detachShader _ _ => some .detachShader
  | .linkProgram _ => some .linkProgram
  | .useProgram _ => some .useProgram
  | .deleteProgram _ => some .deleteProgram
  | .uploadArrayBuffer _ _ => some .uploadArrayBuffer
  | .bindArrayBuffer _ => some .bindArrayBuffer
  | .deleteBuffer _ => some .deleteBuffer
  | _ => none

namespace Memory

/-! ## Contexts that look alike -/

/-- A program without the shaders that are not there any more. -/
def Program.pruned (shaders : Table Shader) (p : Program) : Program :=
  { p with attached := p.attached.filter shaders.contains }

/-- Two contexts that look alike: one differs from the other in nothing but shaders that programs
remember and that are not there any more, and in what was recorded before.  Calls that ask for a
shader never find the ones in which the two differ, which is why the difference does not spread. -/
structure LooksAlike (past past' : List Event) (m m' : Memory) : Prop where
  rest : m' = { m with programs := m'.programs, events := m'.events }
  programs : m'.programs.map (Program.pruned m.shaders) = m.programs.map (Program.pruned m.shaders)
  events : ∃ later, m.events = past ++ later ∧ m'.events = past' ++ later
  clears : m'.clears = m.clears

variable {m m' : Memory} {past past' : List Event} {p s : Handle}
  {programs programs' : Table Program}

theorem attachedSource?_pruned (m : Memory) (p : Program) (stage : Stage) :
    m.attachedSource? (p.pruned m.shaders) stage = m.attachedSource? p stage := by
  unfold attachedSource? Program.pruned
  rw [List.filterMap_filter]
  refine congrArg List.getLast? (List.filterMap_congr fun h _ => ?_)
  cases hget : m.shaders.get? h <;> simp [Table.contains, hget]

/-- Linking looks at the shaders that are there. -/
theorem pruned_link (m : Memory) (p : Program) :
    (m.link p).pruned m.shaders = m.link (p.pruned m.shaders) := by
  unfold link
  rw [attachedSource?_pruned, attachedSource?_pruned]
  split <;> rfl

namespace LooksAlike

/-- Contexts that look alike differ in their programs and in what was recorded alone. -/
theorem exists_eq (h : LooksAlike past past' m m') :
    ∃ programs events, m' = { m with programs, events } :=
  ⟨_, _, h.rest⟩

theorem contains_program (h : LooksAlike past past' m m') (p : Handle) :
    m'.programs.contains p = m.programs.contains p := by
  rw [← Table.contains_map _ (Program.pruned m.shaders), h.programs, Table.contains_map]

theorem get?_program (h : LooksAlike past past' m m') (p : Handle) :
    (m'.programs.get? p).map (Program.pruned m.shaders) =
      (m.programs.get? p).map (Program.pruned m.shaders) := by
  rw [← Table.get?_map, h.programs, Table.get?_map]

/-- What is read off a program without its shaders is read off both contexts alike. -/
theorem read_program {β : Type} (h : LooksAlike past past' m m') (p : Handle) (f : Program → β)
    (blind : ∀ program : Program, f (program.pruned m.shaders) = f program) :
    (m'.programs.get? p).map f = (m.programs.get? p).map f := by
  have hcomp : f ∘ Program.pruned m.shaders = f := funext blind
  have hget := congrArg (Option.map f) (h.get?_program p)
  rwa [Option.map_map, Option.map_map, hcomp] at hget

theorem record (h : LooksAlike past past' m m') (e : Event) :
    LooksAlike past past' (m.record e) (m'.record e) := by
  obtain ⟨programs, events, rfl⟩ := h.exists_eq
  obtain ⟨-, hprograms, ⟨later, hevents, hevents'⟩, hclears⟩ := h
  refine ⟨rfl, hprograms, ⟨later ++ [e], ?_, ?_⟩, ?_⟩
  · exact (congrArg (· ++ [e]) hevents).trans (List.append_assoc _ _ _)
  · exact (congrArg (· ++ [e]) hevents').trans (List.append_assoc _ _ _)
  · simp only [Memory.clears, Memory.record, List.filterMap_append] at hclears ⊢
    rw [hclears]

theorem refuse (h : LooksAlike past past' m m') (entry : Entry) :
    LooksAlike past past' (m.refuse entry) (m'.refuse entry) :=
  h.record _

/-- Two contexts that look alike do so when both get programs that do. -/
theorem reprogram (h : LooksAlike past past' m m')
    (hprograms : programs'.map (Program.pruned m.shaders) =
      programs.map (Program.pruned m.shaders)) :
    LooksAlike past past' { m with programs } { m' with programs := programs' } := by
  obtain ⟨programs, events, rfl⟩ := h.exists_eq
  exact ⟨rfl, hprograms, h.events, h.clears⟩

/-- Two contexts that look alike do so when a program of both is changed in ways that differ in
nothing but shaders that are not there. -/
theorem remodel (h : LooksAlike past past' m m') {f g k : Program → Program}
    (hf : ∀ a, (f a).pruned m.shaders = k (a.pruned m.shaders))
    (hg : ∀ a, (g a).pruned m.shaders = k (a.pruned m.shaders)) :
    LooksAlike past past' { m with programs := m.programs.modify p f }
      { m' with programs := m'.programs.modify p g } := by
  refine h.reprogram ?_
  rw [Table.map_modify hf, Table.map_modify hg, h.programs]

/-- Two contexts that look alike do so when both get shaders with nothing behind a handle that was
not there before, unless no program remembers it. -/
theorem reshade (h : LooksAlike past past' m m') (shaders : Table Shader)
    (weaker : ∀ s, shaders.contains s → m.shaders.contains s ∨
      ¬ m.Remembers s ∧ ¬ m'.Remembers s) :
    LooksAlike past past' { m with shaders } { m' with shaders } := by
  obtain ⟨programs, events, rfl⟩ := h.exists_eq
  refine ⟨rfl, ?_, h.events, h.clears⟩
  -- what is kept now is kept of what was kept before
  have hpruned (n : Memory)
      (hn : ∀ s, shaders.contains s → m.shaders.contains s ∨ ¬ n.Remembers s) :
      n.programs.map (Program.pruned shaders) =
        (n.programs.map (Program.pruned m.shaders)).map (Program.pruned shaders) := by
    simp only [Table.map, List.map_map]
    refine congrArg _ (List.map_congr_left fun entry hentry => ?_)
    simp only [Function.comp_apply, Program.pruned, List.filter_filter, Prod.mk.injEq, true_and]
    refine congrArg (fun attached => { entry.2 with attached }) (List.filter_congr fun s hs => ?_)
    cases hlive : shaders.contains s with
    | false => rfl
    | true =>
        obtain hold | hforgotten := hn s hlive
        · rw [hold]
          rfl
        · exact absurd ⟨entry, hentry, hs⟩ hforgotten
  rw [hpruned m fun s hs => (weaker s hs).imp_right And.left,
    hpruned { m with programs, events } fun s hs => (weaker s hs).imp_right And.right]
  exact congrArg _ h.programs

/-! ### Shaders -/

/-- A new shader looks alike in both contexts: its handle was not given out before, so that no
program remembers it. -/
theorem createShader (h : LooksAlike past past' m m') (numbered : m.Numbered)
    (numbered' : m'.Numbered) (stage : Stage) :
    (m'.createShader stage).1 = (m.createShader stage).1 ∧
      LooksAlike past past' (m.createShader stage).2 (m'.createShader stage).2 := by
  obtain ⟨programs, events, rfl⟩ := h.exists_eq
  by_cases hbarred : m.barredStage = some stage
  · simp only [Memory.createShader, if_pos hbarred]
    exact ⟨trivial, h⟩
  · simp only [Memory.createShader, if_neg hbarred]
    obtain ⟨-, hprograms, hevents, hclears⟩ :=
      h.reshade (m.shaders.insert (m.issued + 1) { stage }) fun s hs => by
        rw [Table.contains_iff, Table.handles_insert, List.mem_cons] at hs
        obtain rfl | hold := hs
        · exact .inr ⟨fun h => absurd (numbered.remembered _ h) (Nat.not_succ_le_self _),
            fun h => absurd (numbered'.remembered _ h) (Nat.not_succ_le_self _)⟩
        · exact .inl ((Table.contains_iff _ _).mpr hold)
    exact ⟨trivial, rfl, hprograms, hevents, hclears⟩

theorem modify_shader (h : LooksAlike past past' m m') (s : Handle) (f : Shader → Shader) :
    LooksAlike past past' { m with shaders := m.shaders.modify s f }
      { m' with shaders := m'.shaders.modify s f } := by
  obtain ⟨programs, events, rfl⟩ := h.exists_eq
  exact h.reshade _ fun k hk => .inl (by rwa [Table.contains_modify] at hk)

theorem compileShader (h : LooksAlike past past' m m') (s : Handle) :
    LooksAlike past past' (m.compileShader s) (m'.compileShader s) := by
  obtain ⟨programs, events, rfl⟩ := h.exists_eq
  simp only [Memory.compileShader]
  cases m.shaders.get? s with
  | none => exact h.refuse _
  | some shader =>
      obtain ⟨-, hprograms, hevents, hclears⟩ :=
        h.modify_shader s ({ · with compiled := some (verdict shader.source) })
      refine record ?_ _
      exact ⟨rfl, hprograms, hevents, hclears⟩

theorem deleteShader (h : LooksAlike past past' m m') (s : Handle) :
    LooksAlike past past' (m.deleteShader s) (m'.deleteShader s) := by
  obtain ⟨programs, events, rfl⟩ := h.exists_eq
  simp only [Memory.deleteShader]
  split
  · refine h.reshade _ fun k hk => .inl ?_
    rw [Table.contains_iff, Table.handles_erase] at hk
    exact (Table.contains_iff _ _).mpr (List.mem_filter.mp hk).1
  · exact h.refuse _

/-! ### Programs -/

theorem createProgram (h : LooksAlike past past' m m') :
    m'.createProgram.1 = m.createProgram.1 ∧
      LooksAlike past past' m.createProgram.2 m'.createProgram.2 := by
  obtain ⟨programs, events, rfl⟩ := h.exists_eq
  simp only [Memory.createProgram]
  split
  · exact ⟨rfl, h⟩
  · refine ⟨rfl, rfl, ?_, h.events, h.clears⟩
    exact congrArg (Table.insert · _ _) h.programs

/-- Only a shader that is there is attached. -/
theorem attachShader (h : LooksAlike past past' m m') (p s : Handle) :
    LooksAlike past past' (m.attachShader p s) (m'.attachShader p s) := by
  have hcontains := h.contains_program p
  obtain ⟨programs, events, rfl⟩ := h.exists_eq
  simp only [Memory.attachShader, hcontains]
  split
  · next hlive =>
      rw [Bool.and_eq_true] at hlive
      have comm (a : Program) :
          Program.pruned m.shaders { a with attached := a.attached ++ [s] } =
            { a.pruned m.shaders with attached := (a.pruned m.shaders).attached ++ [s] } := by
        simp [Program.pruned, List.filter_append, hlive.1]
      exact h.remodel (k := fun a => { a with attached := a.attached ++ [s] }) comm comm
  · exact h.refuse _

/-- Shaders that are there are detached in both, and others make no difference to how the two look.
-/
theorem detachShader (h : LooksAlike past past' m m') (p s : Handle) :
    LooksAlike past past' (m.detachShader p s) (m'.detachShader p s) := by
  have hcontains := h.contains_program p
  obtain ⟨programs, events, rfl⟩ := h.exists_eq
  simp only [Memory.detachShader, hcontains]
  split
  · have comm (a : Program) :
        Program.pruned m.shaders { a with attached := a.attached.filter (· ≠ s) } =
          { a.pruned m.shaders with
            attached := (a.pruned m.shaders).attached.filter (· ≠ s) } := by
      simp only [Program.pruned, List.filter_filter, Bool.and_comm]
    exact h.remodel (k := fun a => { a with attached := a.attached.filter (· ≠ s) }) comm comm
  · exact h.refuse _

/-- Contexts that look alike do so after a program is linked, since linking looks at live shaders
alone. -/
theorem linkProgram (h : LooksAlike past past' m m') (p : Handle) :
    LooksAlike past past' (m.linkProgram p) (m'.linkProgram p) := by
  have hlink : m'.link = m.link := by
    rw [h.rest]
    rfl
  have hsame := h.get?_program p
  unfold Memory.linkProgram
  cases hprogram : m.programs.get? p with
  | none =>
      rw [hprogram, Option.map_none, Option.map_eq_none_iff] at hsame
      simp only [hsame]
      exact h.refuse _
  | some program =>
      rw [hprogram, Option.map_some, Option.map_eq_some_iff] at hsame
      obtain ⟨program', hprogram', hpruned⟩ := hsame
      have hlinked : (m.link program').pruned m.shaders = (m.link program).pruned m.shaders := by
        rw [pruned_link, hpruned, ← pruned_link]
      have hpassed : passed (m.link program').linked = passed (m.link program).linked :=
        congrArg (passed ·.linked) hlinked
      simp only [hprogram', hlink, hpassed]
      exact (h.remodel (k := fun _ => (m.link program).pruned m.shaders)
        (fun _ => rfl) (fun _ => hlinked)).record _

theorem useProgram (h : LooksAlike past past' m m') (program : Option Handle) :
    LooksAlike past past' (m.useProgram program) (m'.useProgram program) := by
  have hcontains := funext h.contains_program
  obtain ⟨programs, events, rfl⟩ := h.exists_eq
  simp only [Memory.useProgram, hcontains]
  split
  · refine record ?_ _
    exact ⟨rfl, h.programs, h.events, h.clears⟩
  · exact h.refuse _

theorem deleteProgram (h : LooksAlike past past' m m') (p : Handle) :
    LooksAlike past past' (m.deleteProgram p) (m'.deleteProgram p) := by
  have hcontains := h.contains_program p
  obtain ⟨programs, events, rfl⟩ := h.exists_eq
  simp only [Memory.deleteProgram, hcontains]
  split
  · refine h.reprogram ?_
    rw [Table.map_erase, Table.map_erase]
    exact congrArg (Table.erase · _) h.programs
  · exact h.refuse _

/-- A program tells the same of its last link in both contexts. -/
theorem tells (h : LooksAlike past past' m m') (p : Handle) : m.Tells m' p :=
  tells_of_exposed (h.read_program p Program.exposed fun _ => rfl)

/-! ### Buffers -/

theorem createBuffer (h : LooksAlike past past' m m') :
    m'.createBuffer.1 = m.createBuffer.1 ∧
      LooksAlike past past' m.createBuffer.2 m'.createBuffer.2 := by
  obtain ⟨programs, events, rfl⟩ := h.exists_eq
  simp only [Memory.createBuffer]
  split
  · exact ⟨rfl, h⟩
  · exact ⟨rfl, rfl, h.programs, h.events, h.clears⟩

theorem uploadArrayBuffer (h : LooksAlike past past' m m') (b : Handle) (data : List UInt8) :
    LooksAlike past past' (m.uploadArrayBuffer b data) (m'.uploadArrayBuffer b data) := by
  obtain ⟨programs, events, rfl⟩ := h.exists_eq
  simp only [Memory.uploadArrayBuffer]
  split
  · exact (h.record _).record _
  · exact h.refuse _

theorem bindArrayBuffer (h : LooksAlike past past' m m') (buffer : Option Handle) :
    LooksAlike past past' (m.bindArrayBuffer buffer) (m'.bindArrayBuffer buffer) := by
  obtain ⟨programs, events, rfl⟩ := h.exists_eq
  simp only [Memory.bindArrayBuffer]
  split
  · exact h.record _
  · exact h.refuse _

theorem deleteBuffer (h : LooksAlike past past' m m') (b : Handle) :
    LooksAlike past past' (m.deleteBuffer b) (m'.deleteBuffer b) := by
  obtain ⟨programs, events, rfl⟩ := h.exists_eq
  simp only [Memory.deleteBuffer]
  split
  · exact ⟨rfl, h.programs, h.events, h.clears⟩
  · exact h.refuse _

/-! ### Calls -/

/-- **Contexts that look alike give the same answers, and go on looking alike.**  Numbering is asked
of both, since a handle that is remembered and given out again would make a difference after all. -/
theorem answer (h : LooksAlike past past' m m') (numbered : m.Numbered) (numbered' : m'.Numbered)
    (c : Call String) :
    (Memory.answer c m').1 = (Memory.answer c m).1 ∧
      LooksAlike past past' (Memory.answer c m).2 (Memory.answer c m').2 := by
  cases c with
  | createShader stage => exact h.createShader numbered numbered' stage
  | createProgram => exact h.createProgram
  | createBuffer => exact h.createBuffer
  | shaderSource s text => exact ⟨rfl, h.modify_shader s _⟩
  | compileShader s => exact ⟨rfl, h.compileShader s⟩
  | deleteShader s => exact ⟨rfl, h.deleteShader s⟩
  | attachShader p s => exact ⟨rfl, h.attachShader p s⟩
  | detachShader p s => exact ⟨rfl, h.detachShader p s⟩
  | linkProgram p => exact ⟨rfl, h.linkProgram p⟩
  | useProgram program => exact ⟨rfl, h.useProgram program⟩
  | deleteProgram p => exact ⟨rfl, h.deleteProgram p⟩
  | uploadArrayBuffer b data => exact ⟨rfl, h.uploadArrayBuffer b data⟩
  | bindArrayBuffer buffer => exact ⟨rfl, h.bindArrayBuffer buffer⟩
  | deleteBuffer b => exact ⟨rfl, h.deleteBuffer b⟩
  | compileStatus | shaderLog =>
      obtain ⟨programs, events, rfl⟩ := h.exists_eq
      exact ⟨rfl, h⟩
  | linkStatus p => exact ⟨(h.tells p).linkStatus, h⟩
  | programLog p => exact ⟨(h.tells p).programLog, h⟩
  | attribLocation p name => exact ⟨(h.tells p).attribLocation name, h⟩
  | uniformLocation p name => exact ⟨(h.tells p).uniformLocation name, h⟩
  | drawTriangleStrip first count =>
      obtain ⟨programs, events, rfl⟩ := h.exists_eq
      simp only [Memory.answer]
      split
      · exact ⟨trivial, h.record _⟩
      · exact ⟨trivial, h.refuse _⟩
  | readRgba width height =>
      refine ⟨?_, h.record _⟩
      simp only [Memory.answer, texel, h.clears]
  | floatAttribPointer | uniformVec2 | uniformFloat | viewport | clearColor =>
      exact ⟨rfl, h.record _⟩

theorem act (h : LooksAlike past past' m m') (numbered : m.Numbered) (numbered' : m'.Numbered)
    (a : Act) : m'.heard a = m.heard a ∧ LooksAlike past past' (m.act a) (m'.act a) := by
  cases a with
  | call c =>
      obtain ⟨hanswer, halike⟩ := h.answer numbered numbered' c
      exact ⟨congrArg (fun a : c.Answer => ([⟨.gl c, a⟩] : List (Exchange String))) hanswer, halike⟩
  | barShaders | barPrograms | barBuffers =>
      obtain ⟨programs, events, rfl⟩ := h.exists_eq
      exact ⟨rfl, rfl, h.programs, h.events, h.clears⟩

/-- What is said to contexts that look alike is the same from then on. -/
theorem after (h : LooksAlike past past' m m') (numbered : m.Numbered) (numbered' : m'.Numbered)
    (acts : List Act) :
    m'.said acts = m.said acts ∧ LooksAlike past past' (m.after acts) (m'.after acts) := by
  induction acts generalizing m m' with
  | nil => exact ⟨rfl, h⟩
  | cons a acts ih =>
      obtain ⟨hheard, hact⟩ := h.act numbered numbered' a
      obtain ⟨hsaid, hafter⟩ := ih hact (numbered.act a) (numbered'.act a)
      exact ⟨congrArg₂ (· ++ ·) hheard hsaid, hafter⟩

end LooksAlike

/-! ## Stray handles -/

/-- Whether a call names an object that is not there. -/
def Strays (m : Memory) (c : Call String) : Prop := ∃ o ∈ (m.exchange c).named, ¬ m.Has o

/-- A context looks like itself. -/
theorem looksAlike_self (m : Memory) :
    LooksAlike m.events (m.events ++ (none : Option Entry).toList.map .invalidHandle) m m :=
  ⟨rfl, rfl, ⟨[], (List.append_nil _).symm, by simp⟩, rfl⟩

/-- A refusal adds an event and changes nothing else. -/
theorem looksAlike_refuse (m : Memory) (entry : Entry) :
    LooksAlike m.events (m.events ++ (some entry).toList.map .invalidHandle) m (m.refuse entry) :=
  ⟨rfl, rfl, ⟨[], (List.append_nil _).symm, (List.append_nil _).symm⟩,
    by simp [clears, Memory.refuse, Memory.record]⟩

/-- **What a call with a stray handle does**: it is refused, if it is one that checks its handles,
and otherwise it does nothing.  The one exception is a shader that is detached from a program.
There the program forgets the shader, if it remembered it. -/
theorem strays_cases {c : Call String} (h : m.Strays c) :
    (answer c m).2 = (c.entry?.map m.refuse).getD m ∨
      ∃ p s, c = .detachShader p s ∧ m.Has ⟨.program, p⟩ ∧ ¬ m.Has ⟨.shader, s⟩ := by
  obtain ⟨o, hnamed, absent⟩ := h
  cases c with
  | createShader | createProgram | createBuffer | floatAttribPointer | uniformVec2 | uniformFloat
  | viewport | clearColor | drawTriangleStrip | readRgba => cases hnamed
  | compileStatus | shaderLog | linkStatus | programLog | attribLocation | uniformLocation =>
      exact .inl rfl
  | shaderSource s text =>
      obtain rfl := List.mem_singleton.mp hnamed
      rw [has_shader] at absent
      simp [answer, Table.modify_of_not_contains absent, Call.entry?]
  | compileShader s =>
      obtain rfl := List.mem_singleton.mp hnamed
      rw [has_shader, Table.contains, Option.not_isSome_iff_eq_none] at absent
      simp [answer, compileShader, absent, Call.entry?]
  | linkProgram p =>
      obtain rfl := List.mem_singleton.mp hnamed
      rw [has_program, Table.contains, Option.not_isSome_iff_eq_none] at absent
      simp [answer, linkProgram, absent, Call.entry?]
  | deleteShader h | deleteProgram h | uploadArrayBuffer h | deleteBuffer h =>
      obtain rfl := List.mem_singleton.mp hnamed
      simp only [has_shader, has_program, has_buffer] at absent
      simp [answer, deleteShader, deleteProgram, uploadArrayBuffer, deleteBuffer, absent,
        Call.entry?]
  | attachShader p s =>
      have absent : ¬ (m.shaders.contains s && m.programs.contains p) := by
        rw [Bool.and_eq_true]
        rintro ⟨hs, hp⟩
        obtain rfl | rfl : o = ⟨.program, p⟩ ∨ o = ⟨.shader, s⟩ := by
          simpa [exchange, Exchange.named] using hnamed
        · exact absent (has_program.mpr hp)
        · exact absent (has_shader.mpr hs)
      exact .inl (if_neg absent)
  | detachShader p s =>
      obtain rfl | rfl : o = ⟨.program, p⟩ ∨ o = ⟨.shader, s⟩ := by
        simpa [exchange, Exchange.named] using hnamed
      · rw [has_program] at absent
        simp [answer, detachShader, absent, Call.entry?]
      · by_cases hp : m.Has ⟨.program, p⟩
        · exact .inr ⟨p, s, rfl, hp, absent⟩
        · rw [has_program] at hp
          simp [answer, detachShader, hp, Call.entry?]
  | useProgram program | bindArrayBuffer program =>
      obtain ⟨h, hh, rfl⟩ := List.mem_map.mp hnamed
      obtain rfl := Option.mem_toList.mp hh
      simp only [has_program, has_buffer] at absent
      simp [answer, useProgram, bindArrayBuffer, absent, Call.entry?]

/-- A shader that is not there any more can be detached, and nobody can tell. -/
theorem looksAlike_detachShader {p s : Handle} (absent : ¬ m.Has ⟨.shader, s⟩) :
    LooksAlike m.events m.events m
      { m with
        programs := m.programs.modify p fun a =>
          { a with attached := a.attached.filter (· ≠ s) } } := by
  refine ⟨rfl, ?_, ⟨[], (List.append_nil _).symm, (List.append_nil _).symm⟩, rfl⟩
  refine (Table.map_modify (k := id) (fun a => ?_) _ _).trans (Table.modify_id _ _)
  rw [has_shader] at absent
  unfold Program.pruned
  rw [List.filter_filter]
  refine congrArg (fun attached => { a with attached }) (List.filter_congr fun k _ => ?_)
  obtain rfl | hne := eq_or_ne k s <;> simp [*]

/-- **After a call with a stray handle a context looks as before**, but for the event that the call
was refused. -/
theorem looksAlike_of_strays {c : Call String} (h : m.Strays c) : ∃ report : Option Entry,
    LooksAlike m.events (m.events ++ report.toList.map .invalidHandle) m (answer c m).2 := by
  obtain hanswer | ⟨p, s, rfl, hp, absent⟩ := strays_cases h
  · rw [hanswer]
    cases c.entry? with
    | none => exact ⟨none, m.looksAlike_self⟩
    | some entry => exact ⟨some entry, m.looksAlike_refuse entry⟩
  · refine ⟨none, ?_⟩
    rw [has_program] at hp
    simp only [answer, detachShader, if_pos hp]
    simpa using looksAlike_detachShader absent

/-- A call that makes no difference to what is done later: all answers are the same, as many objects
of each kind are there, the same program is current and the same sources went through compilation.
The events are the same, but for one that the call was refused.  The two contexts need not be equal:
a program may have forgotten a shader that was not there, and no call can tell. -/
structure Inert (m : Memory) (c : Call String) (later : List Act) : Prop where
  said : (answer c m).2.said later = m.said later
  has : ∀ o, ((answer c m).2.after later).Has o ↔ (m.after later).Has o
  size : ∀ kind, ((answer c m).2.after later).size kind = (m.after later).size kind
  current : ((answer c m).2.after later).current = (m.after later).current
  compiled : ((answer c m).2.after later).compiled = (m.after later).compiled
  buffersMade : ((answer c m).2.after later).buffersMade = (m.after later).buffersMade
  events : ∃ report : Option Entry, ∃ events,
    (m.after later).events = m.events ++ events ∧
      ((answer c m).2.after later).events =
        m.events ++ report.toList.map .invalidHandle ++ events

/-- The same objects are there in contexts that look alike. -/
theorem LooksAlike.handles (h : LooksAlike past past' m m') (kind : Kind) :
    m'.handles kind = m.handles kind := by
  have hprograms := congrArg Table.handles h.programs
  rw [Table.handles_map, Table.handles_map] at hprograms
  rw [h.rest]
  cases kind with
  | program => exact hprograms
  | shader | buffer => rfl

/-- **A call with a stray handle makes no difference.** -/
theorem inert_of_strays (numbered : m.Numbered) {c : Call String} (h : m.Strays c)
    (later : List Act) : m.Inert c later := by
  obtain ⟨report, halike⟩ := looksAlike_of_strays h
  obtain ⟨hsaid, halike⟩ := halike.after numbered (numbered.answer c) later
  exact
    { said := hsaid
      has := fun o => by rw [Has, Has, halike.handles]
      size := fun kind => by rw [size_eq, size_eq, halike.handles]
      current := by rw [halike.rest]
      compiled := by rw [halike.rest]
      buffersMade := by rw [halike.rest]
      events := ⟨report, halike.events⟩ }

/-! ## The register -/

/-- What a context keeps of its objects, whatever is done to it: handles are given out in turn;
there is what was made and not deleted since; what was deleted does not come back; as many objects
of a kind are there as were made and not deleted; and calls with stray handles make no difference.
The parts are told from what was done and said, so that they hold of a context without looking into
it. -/
structure Registered (acts : List Act) : Prop where
  numbered : Surface.handles (said {} acts) =
    List.range' 1 (Surface.handles (said {} acts)).length
  live : ∀ o, (after {} acts).Has o ↔ o ∈ (Ledger.replay {} (said {} acts)).live
  spent : ∀ o c, (after {} acts).Has o → ((after {} acts).exchange c).deleted = some o →
    ∀ kind later, ¬ (after {} (acts ++ .call c :: later)).Has ⟨kind, o.handle⟩
  counted : ∀ kind, (after {} acts).size kind + Ledger.deletions kind {} (said {} acts) =
    (said {} acts).countP (makes kind)
  inert : ∀ c, (after {} acts).Strays c → ∀ later, (after {} acts).Inert c later

/-- **Whatever is done to a context, with any handles, its register is right**: handles are given
out in turn and for good, its tables hold what was made and not deleted since, and stray handles
make no difference.  The acts are arbitrary, with stray handles and failed creations among them. -/
theorem objects_registered (acts : List Act) : Registered acts := by
  have hnumbered := numbered_empty.after acts
  exact
    { numbered := (handles_said {} acts).2
      live := fun o => has_after_iff acts
      spent := by
        intro o c hlive hdeleted kind later
        rw [after_append, after_cons]
        have habsent : ¬ ((after {} acts).act (.call c)).Has ⟨kind, o.handle⟩ := by
          intro h
          obtain hmade | ⟨hold, hkept⟩ := has_answer_iff.mp h
          · rw [Exchange.made_of_deleted hdeleted] at hmade
            cases hmade
          · rw [hnumbered.single _ o hold hlive rfl] at hkept
            exact hkept hdeleted
        refine not_has_after ?_ habsent later
        exact Nat.le_trans (hnumbered.live o hlive) (issued_le_act _ _)
      counted := fun kind => by
        have hsize := numbered_empty.size_after follows_empty acts kind
        rw [hsize]
        cases kind <;> exact Nat.zero_add _
      inert := fun c hstrays later => inert_of_strays hnumbered hstrays later }

end Memory

end ShaderSketch.Gl
