import ShaderSketch.Proofs.Counting
import ShaderSketch.Proofs.Tally

/-!
# The register of objects

The context in memory can be called directly, with any handles in any order.  Whatever is done to
it, its tables hold what was made and not deleted since, and the numbers are given out in turn.

## Main definitions

* `Gl.Memory.Act`, `Gl.Memory.act`, `Gl.Memory.after` — what can be done to a context, and a context
  after that
* `Gl.Memory.said` — the calls among many acts, with their answers
* `Gl.Memory.handles`, `Gl.Memory.Has` — the objects in the tables
* `Gl.Memory.Numbered` — the invariant: handles are numbers that were given out
* `Gl.makes`, `Gl.Ledger.deletions` — how many objects came, and how many went

## Main results

* `Gl.Memory.handles_answer` : what any call does to the tables
* `Gl.Memory.handles_said` : handles are numbered in the order in which objects are made
* `Gl.Memory.has_after_iff` : what is in the tables was made and not deleted since
* `Gl.Memory.not_has_after` : what is not there any more does not come back
* `Gl.Memory.Numbered.size_after` : how many objects are in a table

## Design notes

`ShaderSketch.Proofs.Tally` has the same for calls that name live objects only, and then also for
the current program.  Here handles may name anything, so that a call may be refused, and the ledger
is right about live objects alone.

Handles are natural numbers, so that there is always a next one.  A counter of 32 bits gives out the
same numbers for as long as it has any.
-/

namespace ShaderSketch.Gl

open Surface

/-- What is found in a table is in it. -/
theorem Table.mem_of_get? {α : Type} {t : Table α} {h : Handle} {a : α} (hget : t.get? h = some a) :
    (h, a) ∈ t.entries := by
  obtain ⟨front, back, hentries, -⟩ := List.lookup_eq_some_iff.mp hget
  rw [hentries]
  exact List.mem_append_right _ List.mem_cons_self

namespace Memory

/-! ## Acts -/

/-- What can be done to a context: a call is made, or one kind of objects is not to be had any
more. -/
inductive Act
  | call (c : Call String)
  | barShaders (stage : Stage)
  | barPrograms
  | barBuffers
  deriving Repr, DecidableEq

/-- A call, with the answer that a context gives to it. -/
def exchange (m : Memory) (c : Call String) : Exchange String := ⟨.gl c, (answer c m).1⟩

/-- The context after an act. -/
def act (m : Memory) : Act → Memory
  | .call c => (answer c m).2
  | .barShaders stage => m.barShaders stage
  | .barPrograms => m.barPrograms
  | .barBuffers => m.barBuffers

/-- What is said during an act. -/
def heard (m : Memory) : Act → List (Exchange String)
  | .call c => [m.exchange c]
  | .barShaders _ | .barPrograms | .barBuffers => []

/-- The context after many acts. -/
def after (m : Memory) (acts : List Act) : Memory := acts.foldl act m

/-- What is said during many acts. -/
def said (m : Memory) : List Act → List (Exchange String)
  | [] => []
  | a :: acts => m.heard a ++ said (m.act a) acts

variable {m : Memory} {acts acts' : List Act} {o : Object} {kind : Kind}

theorem after_cons {a : Act} : m.after (a :: acts) = (m.act a).after acts := rfl

theorem after_append : m.after (acts ++ acts') = (m.after acts).after acts' := List.foldl_append

/-- **What every act keeps is kept for good.** -/
theorem after_induction {P : Memory → Prop} (step : ∀ m a, P m → P (m.act a)) (h : P m)
    (acts : List Act) : P (m.after acts) := by
  induction acts generalizing m with
  | nil => exact h
  | cons a acts ih => exact ih (step m a h)

/-! ## Live objects -/

/-- The handles of the objects of a kind. -/
def handles (m : Memory) : Kind → List Handle
  | .shader => m.shaders.handles
  | .program => m.programs.handles
  | .buffer => m.buffers.handles

/-- How many objects of a kind there are. -/
def size (m : Memory) : Kind → Nat
  | .shader => m.shaders.size
  | .program => m.programs.size
  | .buffer => m.buffers.size

theorem size_eq (m : Memory) (kind : Kind) : m.size kind = (m.handles kind).length := by
  cases kind <;> exact Table.size_eq _

/-- Whether an object is there. -/
def Has (m : Memory) (o : Object) : Prop := o.handle ∈ m.handles o.kind

instance (m : Memory) (o : Object) : Decidable (m.Has o) :=
  inferInstanceAs (Decidable (o.handle ∈ m.handles o.kind))

theorem has_shader {h : Handle} : m.Has ⟨.shader, h⟩ ↔ m.shaders.contains h :=
  (m.shaders.contains_iff h).symm

theorem has_program {h : Handle} : m.Has ⟨.program, h⟩ ↔ m.programs.contains h :=
  (m.programs.contains_iff h).symm

theorem has_buffer {h : Handle} : m.Has ⟨.buffer, h⟩ ↔ m.buffers.contains h :=
  (m.buffers.contains_iff h).symm

end Memory

namespace Ledger

variable {ℓ : Type} {l : Ledger} {kind : Kind} {said : List (Exchange ℓ)}

/-- The handles of a kind after an exchange: what was made, and what was there and not deleted. -/
theorem handles_after (l : Ledger) (e : Exchange ℓ) (kind : Kind) :
    (l.after e).handles kind =
      (e.made.toList.filter (·.kind = kind)).map (·.handle) ++
        (l.handles kind).filter fun h => e.deleted ≠ some ⟨kind, h⟩ := by
  simp only [handles, live_after, List.filter_append, List.map_append, List.filter_map,
    List.filter_filter]
  refine congrArg _ (congrArg _ (List.filter_congr fun o _ => ?_))
  obtain ⟨kind', h⟩ := o
  by_cases heq : kind' = kind <;> simp [heq]

end Ledger

namespace Memory

variable {m : Memory} {acts acts' : List Act} {o : Object} {kind : Kind}

/-- A call that neither makes nor deletes an object leaves all handles where they are, whether it is
refused or not. -/
theorem handles_of_keeps {c : Call String} (hmade : c.makes = 0)
    (hdeleted : (m.exchange c).deleted = none) (kind : Kind) :
    (answer c m).2.handles kind = m.handles kind := by
  cases c with
  | createShader | createProgram | createBuffer => cases hmade
  | deleteShader | deleteProgram | deleteBuffer => cases hdeleted
  | _ =>
      simp only [answer, compileShader, attachShader, detachShader, linkProgram, useProgram,
        uploadArrayBuffer, bindArrayBuffer]
      all_goals (repeat' split)
      all_goals cases kind <;> simp [handles, record, refuse]

/-- A call that deletes an object takes its handle away, whether that was there or not. -/
theorem handles_of_deletes {c : Call String} (hdeleted : (m.exchange c).deleted = some o)
    (kind : Kind) :
    (answer c m).2.handles kind = (m.handles kind).filter fun h => o ≠ ⟨kind, h⟩ := by
  cases c with
  | deleteShader h | deleteProgram h | deleteBuffer h =>
      obtain rfl := Option.some.inj hdeleted
      simp only [answer, deleteShader, deleteProgram, deleteBuffer]
      split
      · cases kind <;> simp [handles, eq_comm]
      · next absent =>
          rw [Table.contains_iff] at absent
          cases kind <;> simp [handles, record, refuse]
          exact (List.filter_eq_self.mpr fun k hk => by
            simp [show h ≠ k from fun heq => absent (heq ▸ hk)]).symm
  | _ => cases hdeleted

/-- **What a call does to the tables**: what is made is there, and what is deleted is not.  The
whole of a table is told, with its order, so that nothing can have come into it or gone from it
besides. -/
theorem handles_answer (m : Memory) (c : Call String) (kind : Kind) :
    (answer c m).2.handles kind =
      ((m.exchange c).made.toList.filter (·.kind = kind)).map (·.handle) ++
        (m.handles kind).filter fun h => (m.exchange c).deleted ≠ some ⟨kind, h⟩ := by
  cases c with
  | createShader stage =>
      by_cases hbarred : m.barredStage = some stage <;> cases kind <;>
        simp [exchange, answer, createShader, hbarred, Exchange.made, Exchange.deleted, handles]
  | createProgram =>
      cases hbarred : m.barsPrograms <;> cases kind <;>
        simp [exchange, answer, createProgram, hbarred, Exchange.made, Exchange.deleted, handles]
  | createBuffer =>
      cases hbarred : m.barsBuffers <;> cases kind <;>
        simp [exchange, answer, createBuffer, hbarred, Exchange.made, Exchange.deleted, handles]
  | deleteShader h | deleteProgram h | deleteBuffer h =>
      rw [handles_of_deletes rfl]
      simp [exchange, Exchange.made, Exchange.deleted]
  | _ =>
      rw [handles_of_keeps rfl rfl]
      simp [exchange, Exchange.made, Exchange.deleted]

/-- What is there after a call was made by it, or was there before and not deleted. -/
theorem has_answer_iff {c : Call String} : (answer c m).2.Has o ↔
    (m.exchange c).made = some o ∨ m.Has o ∧ (m.exchange c).deleted ≠ some o := by
  obtain ⟨kind, h⟩ := o
  show h ∈ (answer c m).2.handles kind ↔ _ ∨ h ∈ m.handles kind ∧ _
  rw [handles_answer, List.mem_append]
  refine or_congr ?_ (by simp)
  cases (m.exchange c).made with
  | none => simp
  | some o =>
      obtain ⟨kind', h'⟩ := o
      simp [eq_comm]

/-! ## Numbers -/

/-- **What a call makes has the next number**, and the counter moves on just then.  A creation that
fails makes nothing, and so it moves no counter. -/
theorem issued_answer (m : Memory) (c : Call String) :
    (answer c m).2.issued = m.issued + (Surface.handles [m.exchange c]).length ∧
      ∀ o, (m.exchange c).made = some o → o.handle = m.issued + 1 := by
  cases c with
  | createShader stage =>
      by_cases hbarred : m.barredStage = some stage <;>
        simp [exchange, answer, createShader, hbarred, Exchange.made, Surface.handles]
  | createProgram =>
      cases hbarred : m.barsPrograms <;>
        simp [exchange, answer, createProgram, hbarred, Exchange.made, Surface.handles]
  | createBuffer =>
      cases hbarred : m.barsBuffers <;>
        simp [exchange, answer, createBuffer, hbarred, Exchange.made, Surface.handles]
  | _ =>
      rw [issued_of_makes rfl]
      simp [exchange, Exchange.made, Surface.handles]

theorem handles_heard (m : Memory) (a : Act) :
    (m.act a).issued = m.issued + (Surface.handles (m.heard a)).length ∧
      Surface.handles (m.heard a) =
        List.range' (m.issued + 1) (Surface.handles (m.heard a)).length := by
  cases a with
  | barShaders | barPrograms | barBuffers => exact ⟨rfl, rfl⟩
  | call c =>
      obtain ⟨hissued, hmade⟩ := m.issued_answer c
      refine ⟨hissued, ?_⟩
      cases hobject : (m.exchange c).made with
      | none => simp [heard, Surface.handles, hobject]
      | some o => simp [heard, Surface.handles, hobject, hmade o hobject]

/-- The counter never goes back. -/
theorem issued_le_act (m : Memory) (a : Act) : m.issued ≤ (m.act a).issued :=
  (m.handles_heard a).1 ▸ Nat.le_add_right _ _

/-- **Handles are numbered in the order in which objects are made**, whatever their kinds, and a
creation that fails leaves no gap. -/
theorem handles_said (m : Memory) (acts : List Act) :
    (m.after acts).issued = m.issued + (Surface.handles (m.said acts)).length ∧
      Surface.handles (m.said acts) =
        List.range' (m.issued + 1) (Surface.handles (m.said acts)).length := by
  induction acts generalizing m with
  | nil => exact ⟨rfl, rfl⟩
  | cons a acts ih =>
      obtain ⟨hissued, hfirst⟩ := m.handles_heard a
      obtain ⟨hissued', hrest⟩ := ih (m.act a)
      rw [said, Surface.handles_append, List.length_append, after_cons]
      refine ⟨by omega, ?_⟩
      calc Surface.handles (m.heard a) ++ Surface.handles ((m.act a).said acts)
          = List.range' (m.issued + 1) (Surface.handles (m.heard a)).length ++
              List.range' (m.issued + 1 + (Surface.handles (m.heard a)).length)
                (Surface.handles ((m.act a).said acts)).length := by
            rw [← hfirst, hrest, List.length_range', hissued]
            congr 2
            omega
        _ = _ := by rw [List.range'_append_1]

/-- Whether a shader is among those that a program has attached, be it still there or not. -/
def Remembers (m : Memory) (s : Handle) : Prop :=
  ∃ entry ∈ m.programs.entries, s ∈ entry.2.attached

/-- A context in which every handle is a number that was given out, be it in a table or remembered
by a program; it names one object at most, and each table has it once.  With the last part, a
program that remembers a shader which was deleted never takes a later one for it. -/
structure Numbered (m : Memory) : Prop where
  live : ∀ o, m.Has o → o.handle ≤ m.issued
  single : ∀ o o', m.Has o → m.Has o' → o.handle = o'.handle → o = o'
  apart : ∀ kind, (m.handles kind).Nodup
  remembered : ∀ s, m.Remembers s → s ≤ m.issued

theorem numbered_empty : Numbered {} := by
  have hnone (o : Object) : ¬ Has {} o := by
    obtain ⟨kind, h⟩ := o
    cases kind <;> simp [Has, handles, Table.handles]
  refine ⟨fun o ho => (hnone o ho).elim, fun o _ ho => (hnone o ho).elim, fun kind => ?_,
    fun s => by simp [Remembers]⟩
  cases kind <;> simp [handles, Table.handles]

/-- A program that remembers a shader after it was changed did so before, or it is the change that
brought the shader. -/
theorem remembers_of_modify {p s : Handle} {f : Program → Program}
    (h : ∃ entry ∈ (m.programs.modify p f).entries, s ∈ entry.2.attached) :
    m.Remembers s ∨ ∃ entry ∈ m.programs.entries, s ∈ (f entry.2).attached := by
  obtain ⟨_, hentry, hs⟩ := h
  obtain ⟨⟨k, program⟩, hmem, rfl⟩ := List.mem_map.mp hentry
  dsimp only at hs
  split at hs
  · exact .inr ⟨_, hmem, hs⟩
  · exact .inl ⟨_, hmem, hs⟩

theorem attached_link (m : Memory) (p : Program) : (m.link p).attached = p.attached := by
  unfold link
  split <;> rfl

/-- A program comes to remember a shader only while that is there. -/
theorem remembers_answer {c : Call String} {s : Handle} (h : (answer c m).2.Remembers s) :
    m.Remembers s ∨ m.Has ⟨.shader, s⟩ := by
  cases c with
  | createProgram =>
      simp only [answer, createProgram] at h
      split at h
      · exact .inl h
      · simpa [Remembers, Table.insert, or_and_right, exists_or] using Or.inl (b := m.Has _) h
  | deleteProgram p =>
      simp only [answer, deleteProgram] at h
      split at h
      · obtain ⟨entry, hentry, hs⟩ := h
        exact .inl ⟨entry, (List.mem_filter.mp hentry).1, hs⟩
      · exact .inl h
  | attachShader p s' =>
      simp only [answer, attachShader] at h
      split at h
      · next hlive =>
          rw [Bool.and_eq_true] at hlive
          obtain hold | ⟨entry, hentry, hs⟩ := remembers_of_modify h
          · exact .inl hold
          · obtain hs | hs := List.mem_append.mp hs
            · exact .inl ⟨entry, hentry, hs⟩
            · rw [List.mem_singleton.mp hs]
              exact .inr (has_shader.mpr hlive.1)
      · exact .inl h
  | detachShader p s' =>
      simp only [answer, detachShader] at h
      split at h
      · obtain hold | ⟨entry, hentry, hs⟩ := remembers_of_modify h
        · exact .inl hold
        · exact .inl ⟨entry, hentry, (List.mem_filter.mp hs).1⟩
      · exact .inl h
  | linkProgram p =>
      simp only [answer, linkProgram] at h
      split at h
      · exact .inl h
      · next program hget =>
          obtain hold | ⟨-, -, hs⟩ := remembers_of_modify h
          · exact .inl hold
          · rw [attached_link] at hs
            exact .inl ⟨(p, program), Table.mem_of_get? hget, hs⟩
  | _ =>
      refine .inl ?_
      simp only [answer, createShader, createBuffer, compileShader, deleteShader, useProgram,
        uploadArrayBuffer, bindArrayBuffer, deleteBuffer] at h
      all_goals
        (repeat' split at h) <;> exact h

/-- **Handles stay numbers that were given out**, whatever is called.  Every part is needed for the
next call: a new handle is past the counter, so it is in no table and remembered by no program. -/
theorem Numbered.answer (h : m.Numbered) (c : Call String) : (answer c m).2.Numbered := by
  obtain ⟨hissued, hmade⟩ := m.issued_answer c
  have hle : m.issued ≤ (Memory.answer c m).2.issued := hissued ▸ Nat.le_add_right _ _
  refine ⟨fun o ho => ?_, fun o o' ho ho' heq => ?_, fun kind => ?_, fun s hs => ?_⟩
  · obtain hnew | ⟨hold, -⟩ := has_answer_iff.mp ho
    · rw [hmade o hnew, hissued]
      simp [Surface.handles, hnew]
    · exact Nat.le_trans (h.live o hold) hle
  · -- a new number is past all that are there
    have hpast (o o' : Object) (hnew : (m.exchange c).made = some o) (hold : m.Has o') :
        o'.handle < o.handle := hmade o hnew ▸ Nat.lt_succ_of_le (h.live o' hold)
    obtain hnew | ⟨hold, -⟩ := has_answer_iff.mp ho <;>
      obtain hnew' | ⟨hold', -⟩ := has_answer_iff.mp ho'
    · exact Option.some.inj (hnew.symm.trans hnew')
    · exact absurd heq (Nat.ne_of_gt (hpast o o' hnew hold'))
    · exact absurd heq (Nat.ne_of_lt (hpast o' o hnew' hold))
    · exact h.single o o' hold hold' heq
  · rw [handles_answer, List.nodup_append]
    refine ⟨?_, (h.apart kind).filter _, ?_⟩
    · cases (m.exchange c).made with
      | none => exact .nil
      | some o => by_cases hkind : o.kind = kind <;> simp [hkind]
    · rintro k hnew _ hold rfl
      obtain ⟨o, ho, rfl⟩ := List.mem_map.mp hnew
      rw [hmade o (by simpa using (List.mem_filter.mp ho).1)] at hold
      exact Nat.lt_irrefl _ (h.live ⟨kind, _⟩ (List.mem_filter.mp hold).1)
  · obtain hold | hlive := remembers_answer hs
    · exact Nat.le_trans (h.remembered s hold) hle
    · exact Nat.le_trans (h.live _ hlive) hle

/-- What leaves the counter, the handles and the programs alone leaves handles numbers that were
given out. -/
theorem Numbered.of_has {m' : Memory} (h : m.Numbered) (issued : m'.issued = m.issued)
    (handles : m'.handles = m.handles) (programs : m'.programs = m.programs) : m'.Numbered := by
  have hhas (o : Object) : m'.Has o ↔ m.Has o := by rw [Has, Has, handles]
  refine ⟨fun o ho => ?_, fun o o' ho ho' => ?_, fun kind => handles ▸ h.apart kind, fun s hs => ?_⟩
  · exact issued ▸ h.live o ((hhas o).mp ho)
  · exact h.single o o' ((hhas o).mp ho) ((hhas o').mp ho')
  · rw [Remembers, programs] at hs
    exact issued ▸ h.remembered s hs

theorem Numbered.act (h : m.Numbered) (a : Act) : (m.act a).Numbered := by
  cases a with
  | call c => exact h.answer c
  | barShaders | barPrograms | barBuffers =>
      exact h.of_has rfl (funext fun kind => by cases kind <;> rfl) rfl

theorem Numbered.after (h : m.Numbered) (acts : List Act) : (m.after acts).Numbered :=
  after_induction (fun _ a h => h.act a) h acts

/-- An object whose number was given out is not there later unless it is there now. -/
theorem not_has_act {a : Act} (hissued : o.handle ≤ m.issued) (absent : ¬ m.Has o) :
    ¬ (m.act a).Has o := by
  cases a with
  | call c =>
      intro h
      obtain hnew | ⟨hold, -⟩ := has_answer_iff.mp h
      · rw [(m.issued_answer c).2 o hnew] at hissued
        exact Nat.lt_irrefl _ hissued
      · exact absent hold
  | barShaders | barPrograms | barBuffers =>
      obtain ⟨kind, _⟩ := o
      cases kind <;> exact absent

/-- **What is not there any more does not come back.**  The handle has to be one that was given out,
since others may still come. -/
theorem not_has_after (hissued : o.handle ≤ m.issued) (absent : ¬ m.Has o) (acts : List Act) :
    ¬ (m.after acts).Has o := by
  refine (after_induction (P := fun m => o.handle ≤ m.issued ∧ ¬ m.Has o) ?_
    ⟨hissued, absent⟩ acts).2
  exact fun m a ⟨hissued, absent⟩ =>
    ⟨Nat.le_trans hissued (m.issued_le_act a), not_has_act hissued absent⟩

/-! ## The ledger -/

/-- The tables hold the live objects of a ledger. -/
def Follows (m : Memory) (l : Ledger) : Prop := ∀ kind, m.handles kind = l.handles kind

theorem follows_empty : Follows {} {} := by
  intro kind
  cases kind <;> rfl

theorem Follows.act {l : Ledger} (h : m.Follows l) (a : Act) :
    (m.act a).Follows (l.replay (m.heard a)) := by
  intro kind
  cases a with
  | call c => exact (handles_answer m c kind).trans ((h kind) ▸ l.handles_after _ kind).symm
  | barShaders | barPrograms | barBuffers =>
      have hkind := h kind
      cases kind <;> exact hkind

theorem Follows.after {l : Ledger} (h : m.Follows l) (acts : List Act) :
    (m.after acts).Follows (l.replay (m.said acts)) := by
  induction acts generalizing m l with
  | nil => exact h
  | cons a acts ih =>
      rw [said, Ledger.replay_append]
      exact ih (h.act a)

theorem Follows.has_iff {l : Ledger} (h : m.Follows l) : m.Has o ↔ o ∈ l.live := by
  rw [Has, h, Ledger.mem_handles]

/-- **What is in the tables was made and not deleted since.** -/
theorem has_after_iff (acts : List Act) :
    (after {} acts).Has o ↔ o ∈ (Ledger.replay {} (said {} acts)).live :=
  (follows_empty.after acts).has_iff

/-! ## Counts -/

end Memory

/-- Whether an exchange makes an object of a kind. -/
def makes {ℓ : Type} (kind : Kind) (e : Exchange ℓ) : Bool := e.made.any (·.kind = kind)

/-- Whether an exchange deletes an object of a kind that is live. -/
def Ledger.loses {ℓ : Type} (kind : Kind) (l : Ledger) (e : Exchange ℓ) : Bool :=
  e.deleted.any fun o => o.kind = kind ∧ o ∈ l.live

/-- How many live objects of a kind were deleted in a conversation. -/
def Ledger.deletions {ℓ : Type} (kind : Kind) : Ledger → List (Exchange ℓ) → Nat
  | _, [] => 0
  | l, e :: said => (l.loses kind e).toNat + deletions kind (l.after e) said

namespace Memory

variable {m : Memory} {l : Ledger} {kind : Kind}

/-- Of handles that are all different, one is lost when an object is deleted that was there. -/
theorem length_filter_deleted (kind : Kind) {hs : List Handle} (apart : hs.Nodup)
    (deleted : Option Object) :
    (hs.filter fun h => deleted ≠ some ⟨kind, h⟩).length +
      (deleted.any fun o => o.kind = kind ∧ o.handle ∈ hs).toNat = hs.length := by
  cases deleted with
  | none => simp
  | some o =>
      obtain ⟨kind', h⟩ := o
      by_cases hkind : kind' = kind
      · subst hkind
        have herase : (hs.filter fun k => some (Object.mk kind' h) ≠ some ⟨kind', k⟩) =
            hs.erase h := by
          rw [apart.erase_eq_filter]
          refine List.filter_congr fun k _ => ?_
          obtain rfl | hne := eq_or_ne k h
          · simp
          · simp [hne, hne.symm]
        rw [herase, Option.any_some]
        by_cases hmem : h ∈ hs
        · have hpos := List.length_pos_of_mem hmem
          rw [List.length_erase_of_mem hmem, decide_eq_true ⟨rfl, hmem⟩, Bool.toNat_true]
          omega
        · rw [List.erase_of_not_mem hmem, decide_eq_false fun h => hmem h.2, Bool.toNat_false,
            Nat.add_zero]
      · simp [hkind]

/-- What an act does to the number of objects. -/
theorem Numbered.size_act (h : m.Numbered) (follows : m.Follows l) (a : Act) (kind : Kind) :
    (m.act a).size kind + l.deletions kind (m.heard a) =
      m.size kind + (m.heard a).countP (makes kind) := by
  cases a with
  | barShaders | barPrograms | barBuffers => cases kind <;> rfl
  | call c =>
      have hloses : l.loses kind (m.exchange c) =
          (m.exchange c).deleted.any fun o => o.kind = kind ∧ o.handle ∈ m.handles kind := by
        unfold Ledger.loses
        refine congrArg (Option.any · _) (funext fun o => ?_)
        rw [decide_eq_decide]
        refine and_congr_right fun hkind => ?_
        rw [← follows.has_iff, Has, hkind]
      have hdeleted := length_filter_deleted kind (h.apart kind) (m.exchange c).deleted
      rw [← hloses] at hdeleted
      have hmade : ((m.exchange c).made.toList.filter (·.kind = kind)).length =
          [m.exchange c].countP (makes kind) := by
        cases hobject : (m.exchange c).made with
        | none => simp [makes, hobject]
        | some o => by_cases hkind : o.kind = kind <;> simp [makes, hobject, hkind]
      show (Memory.answer c m).2.size kind + ((l.loses kind (m.exchange c)).toNat + 0) =
        m.size kind + [m.exchange c].countP (makes kind)
      rw [size_eq, size_eq, handles_answer, List.length_append, List.length_map, hmade]
      omega

theorem deletions_append {ℓ : Type} {said said' : List (Exchange ℓ)} :
    l.deletions kind (said ++ said') =
      l.deletions kind said + (l.replay said).deletions kind said' := by
  induction said generalizing l with
  | nil => simp [Ledger.deletions]
  | cons e said ih => simp only [List.cons_append, Ledger.deletions, Ledger.replay_cons, ih,
      Nat.add_assoc]

/-- **There are as many objects of a kind as were made and not deleted.**  Counting starts anywhere,
so that it can be applied to one half of a life. -/
theorem Numbered.size_after (h : m.Numbered) (follows : m.Follows l) (acts : List Act)
    (kind : Kind) :
    (m.after acts).size kind + l.deletions kind (m.said acts) =
      m.size kind + (m.said acts).countP (makes kind) := by
  induction acts generalizing m l with
  | nil => rfl
  | cons a acts ih =>
      have hfirst := h.size_act follows a kind
      have hrest := ih (h.act a) (follows.act a)
      rw [after_cons, said, deletions_append, List.countP_append]
      omega

end Memory

end ShaderSketch.Gl
