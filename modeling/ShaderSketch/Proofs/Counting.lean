import ShaderSketch.Canvas.MemorySurface
import ShaderSketch.Canvas.NativeSurface
import ShaderSketch.Proofs.History
import ShaderSketch.Proofs.Ledger

/-!
# Drivers that count

A driver that numbers its objects with one counter never gives a handle out twice.  The context in
memory does so under every script, and so does the native one.

## Main definitions

* `Surface.World.Counts` — a world that numbers what it makes
* `Surface.Ascending` — a conversation in which what is made gets later and later numbers
* `MemorySurface.world` — the surface in memory, with its failures and scripts changing at will
* `NativeSurface.world` — the native surface, with its answers changing at will

## Main results

`Surface.World.Counts.fresh` : on a world that counts, no life of a canvas meets a handle that is
given out while it is live.
-/

namespace ShaderSketch

open Surface

variable {σ κ ℓ : Type}

/-! ## Counting -/

/-- A world that numbers what it makes: the last number never goes back, and what is made gets a
later one.  This is a property of single answers, and it is enough to keep handles apart over a
whole life. -/
structure Surface.World.Counts (w : World σ κ ℓ) (issued : σ → Nat) : Prop where
  answer : ∀ request x, issued x ≤ issued (w.answer request x).2
  made : ∀ request x o, Exchange.made ⟨request, (w.answer request x).1⟩ = some o →
    issued x < o.handle ∧ o.handle ≤ issued (w.answer request x).2
  happen : ∀ what x, issued x ≤ issued (w.happen what x)

/-- No handle was given out while it was live, and none that is live is past the last number. -/
def Numbered (issued : σ → Nat) (x : Logged σ ℓ) : Prop :=
  Gl.Ledger.Fresh {} x.log ∧ ∀ o ∈ (Gl.Ledger.replay {} x.log).live, o.handle ≤ issued x.state

/-- One answer of a driver that counts keeps the numbers apart. -/
theorem Surface.World.Counts.numbered_answer {w : World σ κ ℓ} {issued : σ → Nat}
    (h : w.Counts issued) (request : Request ℓ) (x : Logged σ ℓ) (hx : Numbered issued x) :
    Numbered issued (w.logged.answer request x).2 := by
  obtain ⟨hfresh, hbound⟩ := hx
  have hmade := h.made request x.state
  refine ⟨Gl.Ledger.fresh_append.mpr ⟨hfresh, ?_, trivial⟩, ?_⟩
  · -- what is made is past the last number, and what is live is not
    intro o ho hlive
    exact Nat.not_le.mpr (hmade o ho).1 (hbound o hlive)
  · intro o ho
    have hlog : (w.logged.answer request x).2.log =
        x.log ++ [⟨request, (w.answer request x.state).1⟩] := rfl
    rw [hlog, Gl.Ledger.replay_append, Gl.Ledger.replay_cons, Gl.Ledger.replay_nil,
      Gl.Ledger.live_after] at ho
    obtain hnew | hold := List.mem_append.mp ho
    · exact (hmade o (by simpa using hnew)).2
    · exact Nat.le_trans (hbound o (List.mem_filter.mp hold).1) (h.answer request x.state)

/-- **A driver that counts gives no live handle out.**  Whatever is live was numbered before, and
what is made gets a later number. -/
theorem Surface.World.Counts.fresh {w : World σ κ ℓ} {issued : σ → Nat} (h : w.Counts issued)
    (x : σ) (life : List (Canvas.Step κ)) :
    Gl.Ledger.Fresh {} ((Canvas.onto x).steps w.logged life).surface.log := by
  have hstart : Numbered (ℓ := ℓ) issued (Canvas.onto x).surface := ⟨trivial, by simp [Canvas.onto]⟩
  refine (Canvas.steps_surface_induction h.numbered_answer ?_ hstart life).1
  rintro what y ⟨hfresh, hbound⟩
  exact ⟨hfresh, fun o ho => Nat.le_trans (hbound o ho) (h.happen what y.state)⟩

/-- The handles that are given out in a conversation. -/
def Surface.handles (said : List (Exchange ℓ)) : List Gl.Handle :=
  said.filterMap fun e => e.made.map (·.handle)

/-- A conversation in which the objects that are made are numbered one after another, from one
number on and up to another.  The bounds on both sides are what lets one conversation be appended to
another. -/
structure Surface.Ascending (first : Nat) (said : List (Exchange ℓ)) (last : Nat) : Prop where
  le : first ≤ last
  within : ∀ h ∈ handles said, first < h ∧ h ≤ last
  apart : (handles said).Pairwise (· < ·)

theorem Surface.handles_append (said said' : List (Exchange ℓ)) :
    handles (said ++ said') = handles said ++ handles said' :=
  List.filterMap_append

section

variable {first last : Nat} {said said' : List (Exchange ℓ)}

theorem Surface.Ascending.left (h : Ascending first (said ++ said') last) :
    Ascending first said last := by
  obtain ⟨hle, hwithin, hapart⟩ := h
  rw [handles_append] at hwithin hapart
  exact ⟨hle, (List.forall_mem_append.mp hwithin).1, (List.pairwise_append.mp hapart).1⟩

theorem Surface.Ascending.right (h : Ascending first (said ++ said') last) :
    Ascending first said' last := by
  obtain ⟨hle, hwithin, hapart⟩ := h
  rw [handles_append] at hwithin hapart
  exact ⟨hle, (List.forall_mem_append.mp hwithin).2, (List.pairwise_append.mp hapart).2.1⟩

/-- What is given out in one part of a conversation is not given out in the next. -/
theorem Surface.Ascending.not_mem (h : Ascending first (said ++ said') last) {b : Gl.Handle}
    (hb : b ∈ handles said) : b ∉ handles said' := by
  intro hb'
  have hapart := h.apart
  rw [handles_append] at hapart
  exact Nat.lt_irrefl b ((List.pairwise_append.mp hapart).2.2 b hb b hb')

end

/-- **A driver that counts numbers what it makes in a conversation.**  So two objects of one
conversation are told apart by their handles alone, whatever their kinds. -/
theorem Surface.World.Counts.ascending {w : World σ κ ℓ} {issued : σ → Nat} (h : w.Counts issued)
    {α : Type} (r : Routine ℓ α) (x : σ) :
    Ascending (issued x) (r.said w.toSurface x) (issued (r.run w.toSurface x).2) := by
  refine Routine.said_induction (P := fun x said x' => Ascending (issued x) said (issued x'))
    (fun x => ⟨Nat.le_refl _, List.forall_mem_nil _, .nil⟩) ?_ r x
  rintro request x said x' ⟨hle, hwithin, hapart⟩
  have hanswer := h.answer request x
  cases hmade : Exchange.made ⟨request, (w.answer request x).1⟩ with
  | none =>
      have hhandles : handles (⟨request, (w.answer request x).1⟩ :: said) = handles said := by
        simp [handles, hmade]
      refine ⟨Nat.le_trans hanswer hle, ?_, ?_⟩ <;> rw [hhandles]
      · intro b hb
        exact ⟨Nat.lt_of_le_of_lt hanswer (hwithin b hb).1, (hwithin b hb).2⟩
      · exact hapart
  | some o =>
      -- what is made later is numbered from the answer on
      obtain ⟨hlow, hhigh⟩ := h.made request x o hmade
      have hhandles : handles (⟨request, (w.answer request x).1⟩ :: said) =
          o.handle :: handles said := by
        simp [handles, hmade]
      refine ⟨Nat.le_trans hanswer hle, ?_, ?_⟩ <;> rw [hhandles]
      · refine List.forall_mem_cons.mpr ⟨⟨hlow, Nat.le_trans hhigh hle⟩, fun b hb => ?_⟩
        exact ⟨Nat.lt_of_le_of_lt hanswer (hwithin b hb).1, (hwithin b hb).2⟩
      · refine List.pairwise_cons.mpr ⟨fun b hb => ?_, hapart⟩
        exact Nat.lt_of_le_of_lt hhigh (hwithin b hb).1

/-! ## The context in memory -/

/-- What can happen to a surface in memory: its size changes, the next frame is going to fail, one
kind of objects is not to be had any more, or the driver answers by another script. -/
inductive MemorySurface.Change
  | resize (width height : UInt32)
  | spoilNextFrame (reason : String)
  | barShaders (stage : Gl.Stage)
  | barPrograms
  | barBuffers
  | direct (script : Gl.Script)

/-- A surface in memory with the script that its driver answers by. -/
structure MemorySurface.Directed where
  script : Gl.Script := {}
  surface : MemorySurface

namespace MemorySurface

/-- A surface in memory after a change. -/
def Directed.happen (d : Directed) : Change → Directed
  | .resize width height => { d with surface := d.surface.resize width height }
  | .spoilNextFrame reason => { d with surface := d.surface.spoilNextFrame reason }
  | .barShaders stage =>
    { d with surface := { d.surface with gl := d.surface.gl.barShaders stage } }
  | .barPrograms => { d with surface := { d.surface with gl := d.surface.gl.barPrograms } }
  | .barBuffers => { d with surface := { d.surface with gl := d.surface.gl.barBuffers } }
  | .direct script => { d with script }

/-- The surface in memory, with all that can happen to it. -/
def world : World Directed Change String where
  view d := (scripted d.script).view d.surface
  answer request d :=
    let (answer, surface) := (scripted d.script).answer request d.surface
    (answer, { d with surface })
  happen change d := d.happen change
  hasContext_answer request d h := by
    cases request with
    | gl call => exact h
    | present =>
        have hpresent : d.surface.present.2.hasContext = d.surface.hasContext := by
          unfold present
          split <;> rfl
        exact hpresent.trans h
  hasContext_happen change d h := by
    cases change <;> exact h

/-- A surface of a few pixels. -/
def small : Directed := { surface := { width := 2, height := 2 } }

end MemorySurface

/-- How many objects a call makes if it succeeds. -/
def Gl.Call.makes {ℓ : Type} : Gl.Call ℓ → Nat
  | .createShader _ | .createProgram | .createBuffer => 1
  | _ => 0

/-- A call that makes nothing does not touch the counter. -/
theorem Gl.Memory.issued_of_makes {call : Gl.Call String} (h : call.makes = 0) (m : Gl.Memory) :
    (Gl.Memory.answer call m).2.issued = m.issued := by
  cases call with
  | createShader | createProgram | createBuffer => cases h
  | _ =>
      simp only [Gl.Memory.answer, Gl.Memory.compileShader, Gl.Memory.deleteShader,
        Gl.Memory.attachShader, Gl.Memory.detachShader, Gl.Memory.linkProgram,
        Gl.Memory.useProgram, Gl.Memory.deleteProgram, Gl.Memory.uploadArrayBuffer,
        Gl.Memory.bindArrayBuffer, Gl.Memory.deleteBuffer]
      all_goals (repeat' split) <;> rfl

/-- A script changes answers, and what is made, but nothing else. -/
theorem Gl.Script.state_of_makes {call : Gl.Call String} (h : call.makes = 0) (s : Gl.Script)
    (m : Gl.Memory) : (s.answer call m).2 = (Gl.Memory.answer call m).2 := by
  cases call with
  | createShader | createProgram | createBuffer => cases h
  | _ => rfl

/-- A driver in memory numbers its objects, whatever its script. -/
theorem Gl.Script.issued_answer (s : Gl.Script) (call : Gl.Call String) (m : Gl.Memory) :
    m.issued ≤ (s.answer call m).2.issued ∧
      ∀ o, Exchange.made ⟨.gl call, (s.answer call m).1⟩ = some o →
        m.issued < o.handle ∧ o.handle ≤ (s.answer call m).2.issued := by
  cases call with
  | createShader stage =>
      rcases hscript : s.createFailure stage with _ | reason
      · by_cases hbarred : m.barredStage = some stage <;>
          simp [Gl.Script.answer, hscript, Gl.Memory.createShader, hbarred, Exchange.made]
      · simp [Gl.Script.answer, hscript, Exchange.made]
  | createProgram =>
      cases hbarred : m.barsPrograms <;>
        simp [Gl.Script.answer, Gl.Memory.answer, Gl.Memory.createProgram, hbarred, Exchange.made]
  | createBuffer =>
      cases hbarred : m.barsBuffers <;>
        simp [Gl.Script.answer, Gl.Memory.answer, Gl.Memory.createBuffer, hbarred, Exchange.made]
  | _ =>
      refine ⟨Nat.le_of_eq ?_, by simp [Exchange.made]⟩
      rw [Gl.Script.state_of_makes, Gl.Memory.issued_of_makes]
      all_goals rfl

/-- Showing a frame does not touch the context. -/
theorem MemorySurface.present_gl (m : MemorySurface) : m.present.2.gl = m.gl := by
  unfold present
  split <;> rfl

/-- The surface in memory numbers its objects. -/
theorem MemorySurface.counts : world.Counts fun d => d.surface.gl.issued where
  answer request d := by
    cases request with
    | gl call => exact (d.script.issued_answer call d.surface.gl).1
    | present =>
        exact Nat.le_of_eq (congrArg Gl.Memory.issued d.surface.present_gl.symm)
  made request d o hmade := by
    cases request with
    | gl call => exact (d.script.issued_answer call d.surface.gl).2 o hmade
    | present => cases hmade
  happen change d := by
    cases change <;> exact Nat.le_refl _

/-! ## The native context -/

/-- What can happen to a native surface: its size changes, or the library answers in another way. -/
inductive NativeSurface.Change
  | resize (width height : UInt32)
  | direct (script : Gl.Native.Script)

namespace NativeSurface

/-- A native surface after a change. -/
def happen (m : NativeSurface) : Change → NativeSurface
  | .resize width height => m.resize width height
  | .direct script => { m with gl := { m.gl with script } }

/-- The native surface, with all that can happen to it. -/
def world : World NativeSurface Change Int where
  toSurface := recorded
  happen change m := m.happen change
  hasContext_answer _ _ _ := rfl
  hasContext_happen _ _ _ := rfl

/-- The native surface numbers its objects. -/
theorem counts : world.Counts fun m => m.gl.issued where
  answer request m := by
    cases request with
    | gl call => cases call <;> simp [world, recorded, Gl.Native.answer, Gl.Native.record]
    | present => exact Nat.le_refl _
  made request m o hmade := by
    cases request with
    | gl call =>
        cases call <;>
          simp [world, recorded, Gl.Native.answer, Gl.Native.record, Exchange.made] at hmade ⊢ <;>
          simp [← hmade]
    | present => cases hmade
  happen change m := by
    cases change <;> exact Nat.le_refl _

end NativeSurface

end ShaderSketch
