import Mathlib.Data.List.Basic
import Mathlib.Tactic.Simps.Basic
import ShaderSketch.Proofs.Conversation

/-!
# The ledger of a context

What a graphics context holds after a conversation, read off the conversation alone: the objects
that were made and not deleted since, the current program, and what the buffer binding points at.

## Main definitions

* `Gl.Object` — a shader, a program or a buffer, by its handle
* `Surface.Exchange.named`, `made`, `deleted` — the objects of an exchange
* `Gl.Ledger`, `Gl.Ledger.after`, `Gl.Ledger.replay` — the ledger, after one exchange and after many
* `Gl.Ledger.Fresh` — no handle is given out while it names a live object
* `Gl.Ledger.Sound` — only live objects are named, and nothing is drawn without a program

## Main results

`Gl.Ledger.Sound.made_between` : in a sound conversation nothing is deleted twice, unless it was
made again in between.

## Design notes

Nothing is assumed about the driver but what `Fresh` says, and that is a condition on its answers.
Kinds of objects have handles of their own: a shader and a buffer may share a number.
-/

namespace ShaderSketch

variable {σ κ ℓ : Type}

namespace Gl

/-- The kinds of objects. -/
inductive Kind
  | shader
  | program
  | buffer
  deriving Repr, DecidableEq

/-- An object, by its kind and handle. -/
structure Object where
  kind : Kind
  handle : Handle
  deriving Repr, DecidableEq

end Gl

namespace Surface.Exchange

/-- The objects that a request names. -/
def named : Exchange ℓ → List Gl.Object
  | ⟨.gl (.shaderSource h _), _⟩ | ⟨.gl (.compileShader h), _⟩ | ⟨.gl (.compileStatus h), _⟩
  | ⟨.gl (.shaderLog h), _⟩ | ⟨.gl (.deleteShader h), _⟩ => [⟨.shader, h⟩]
  | ⟨.gl (.attachShader p h), _⟩ | ⟨.gl (.detachShader p h), _⟩ => [⟨.program, p⟩, ⟨.shader, h⟩]
  | ⟨.gl (.linkProgram p), _⟩ | ⟨.gl (.linkStatus p), _⟩ | ⟨.gl (.programLog p), _⟩
  | ⟨.gl (.deleteProgram p), _⟩ | ⟨.gl (.attribLocation p _), _⟩
  | ⟨.gl (.uniformLocation p _), _⟩ => [⟨.program, p⟩]
  | ⟨.gl (.useProgram program), _⟩ => program.toList.map (⟨.program, ·⟩)
  | ⟨.gl (.uploadArrayBuffer b _), _⟩ | ⟨.gl (.deleteBuffer b), _⟩ => [⟨.buffer, b⟩]
  | ⟨.gl (.bindArrayBuffer buffer), _⟩ => buffer.toList.map (⟨.buffer, ·⟩)
  | _ => []

/-- The object that comes of an exchange. -/
def made : Exchange ℓ → Option Gl.Object
  | ⟨.gl (.createShader _), .ok h⟩ => some ⟨.shader, h⟩
  | ⟨.gl .createProgram, .ok h⟩ => some ⟨.program, h⟩
  | ⟨.gl .createBuffer, .ok h⟩ => some ⟨.buffer, h⟩
  | _ => none

/-- The object that a request deletes. -/
def deleted : Exchange ℓ → Option Gl.Object
  | ⟨.gl (.deleteShader h), _⟩ => some ⟨.shader, h⟩
  | ⟨.gl (.deleteProgram h), _⟩ => some ⟨.program, h⟩
  | ⟨.gl (.deleteBuffer h), _⟩ => some ⟨.buffer, h⟩
  | _ => none

/-- Whether a request draws. -/
def draws : Exchange ℓ → Bool
  | ⟨.gl (.drawTriangleStrip _ _), _⟩ => true
  | _ => false

/-- What is deleted is named. -/
theorem mem_named_of_deleted {e : Exchange ℓ} {o : Gl.Object} (h : e.deleted = some o) :
    o ∈ e.named := by
  unfold deleted at h
  split at h <;> cases h <;> simp [named]

/-- Nothing is made by deleting. -/
theorem made_of_deleted {e : Exchange ℓ} {o : Gl.Object} (h : e.deleted = some o) :
    e.made = none := by
  unfold deleted at h
  split at h <;> cases h <;> rfl

end Surface.Exchange

namespace Gl

open Surface

/-- What a context holds: the objects that were made and not deleted since, the newest first, the
current program, the bound buffer, and the buffers that were filled since they were made.  It is
read off what was said, and never asks the driver, so that it can be held against what the driver
reports. -/
structure Ledger where
  live : List Object := []
  current : Option Handle := none
  bound : Option Handle := none
  filled : List Handle := []

namespace Ledger

/-- The ledger with one object more. -/
@[simps] def add (l : Ledger) (o : Object) : Ledger := { l with live := o :: l.live }

/-- The ledger with one object less. -/
@[simps] def drop (l : Ledger) (o : Object) : Ledger := { l with live := l.live.filter (· ≠ o) }

/-- The ledger after an exchange.  A program that is deleted while it is current stays current; a
buffer that is deleted while it is bound is bound no more.  The two cases in the end differ as the
kinds do: a current program is kept by the context until another one takes its place. -/
def after (l : Ledger) : Exchange ℓ → Ledger
  | ⟨.gl (.createShader _), .ok h⟩ => l.add ⟨.shader, h⟩
  | ⟨.gl .createProgram, .ok h⟩ => l.add ⟨.program, h⟩
  | ⟨.gl .createBuffer, .ok h⟩ =>
    { l.add ⟨.buffer, h⟩ with filled := l.filled.filter (· ≠ h) }
  | ⟨.gl (.deleteShader h), _⟩ => l.drop ⟨.shader, h⟩
  | ⟨.gl (.deleteProgram h), _⟩ => l.drop ⟨.program, h⟩
  | ⟨.gl (.deleteBuffer h), _⟩ =>
    { l.drop ⟨.buffer, h⟩ with bound := if l.bound = some h then none else l.bound }
  | ⟨.gl (.useProgram program), _⟩ => { l with current := program }
  | ⟨.gl (.uploadArrayBuffer h _), _⟩ => { l with bound := some h, filled := h :: l.filled }
  | ⟨.gl (.bindArrayBuffer buffer), _⟩ => { l with bound := buffer }
  | _ => l

/-- What is live after an exchange, by what was made and deleted in it. -/
theorem live_after (l : Ledger) (e : Exchange ℓ) :
    (l.after e).live = e.made.toList ++ l.live.filter fun o => e.deleted ≠ some o := by
  obtain ⟨call | _, answer⟩ := e
  · cases call with
    | createShader stage =>
        cases answer <;> simp [after, Exchange.made, Exchange.deleted]
    | createProgram => cases answer <;> simp [after, Exchange.made, Exchange.deleted]
    | createBuffer => cases answer <;> simp [after, Exchange.made, Exchange.deleted]
    | _ => simp [after, Exchange.made, Exchange.deleted, eq_comm]
  · simp [after, Exchange.made, Exchange.deleted]

/-- An object that is not there can be added and taken away again. -/
theorem drop_add {l : Ledger} {o : Object} (h : o ∉ l.live) : (l.add o).drop o = l := by
  have hne : ∀ o' ∈ l.live, o' ≠ o := fun o' ho' eq => h (eq ▸ ho')
  have hfilter : l.live.filter (· ≠ o) = l.live :=
    List.filter_eq_self.mpr fun o' ho' => decide_eq_true (hne o' ho')
  rw [add, drop, List.filter_cons_of_neg (by simp), hfilter]

/-- Taking one object away does not touch another. -/
theorem drop_add_of_ne {l : Ledger} {o o' : Object} (h : o ≠ o') :
    (l.add o).drop o' = (l.drop o').add o := by
  rw [add, drop, List.filter_cons_of_pos (by simpa using h)]
  rfl

theorem not_mem_of_not_mem_add {l : Ledger} {o o' : Object} (h : o ∉ (l.add o').live) :
    o ≠ o' ∧ o ∉ l.live := by
  simpa using h

/-- The ledger after a conversation. -/
def replay (l : Ledger) (said : List (Exchange ℓ)) : Ledger := said.foldl after l

/-- No handle is given out while it names a live object. -/
@[simp] def Fresh : Ledger → List (Exchange ℓ) → Prop
  | _, [] => True
  | l, e :: said => (∀ o ∈ e.made, o ∉ l.live) ∧ Fresh (l.after e) said

/-- Only live objects are named, and nothing is drawn without a program. -/
@[simp] def Sound : Ledger → List (Exchange ℓ) → Prop
  | _, [] => True
  | l, e :: said =>
    ((∀ o ∈ e.named, o ∈ l.live) ∧ (e.draws → l.current.isSome)) ∧ Sound (l.after e) said

variable {l : Ledger} {said said' : List (Exchange ℓ)}

@[simp] theorem replay_nil : replay l ([] : List (Exchange ℓ)) = l := rfl

@[simp] theorem replay_cons {e : Exchange ℓ} : replay l (e :: said) = replay (l.after e) said := rfl

theorem replay_append : replay l (said ++ said') = replay (replay l said) said' :=
  List.foldl_append

theorem fresh_append : Fresh l (said ++ said') ↔ Fresh l said ∧ Fresh (replay l said) said' := by
  induction said generalizing l with
  | nil => simp
  | cons e said ih => simp [ih, and_assoc]

theorem sound_append : Sound l (said ++ said') ↔ Sound l said ∧ Sound (replay l said) said' := by
  induction said generalizing l with
  | nil => simp
  | cons e said ih => simp [ih, and_assoc]

/-- What is live after a conversation was live before or was made in it. -/
theorem mem_live_replay {o : Object} (h : o ∈ (replay l said).live) :
    o ∈ l.live ∨ ∃ e ∈ said, e.made = some o := by
  induction said generalizing l with
  | nil => exact .inl h
  | cons e said ih =>
      obtain hlive | ⟨e', he', hmade⟩ := ih h
      · rw [live_after] at hlive
        obtain hnew | hold := List.mem_append.mp hlive
        · exact .inr ⟨e, List.mem_cons_self, by simpa using hnew⟩
        · exact .inl (List.mem_filter.mp hold).1
      · exact .inr ⟨e', List.mem_cons_of_mem _ he', hmade⟩

/-- **Nothing is deleted twice.**  Between two deletions of one object it was made again.  Soundness
says that what is deleted was live, so that between the two deletions something must have made it
so; no driver has to be trusted for this. -/
theorem Sound.made_between {before between rest : List (Exchange ℓ)} {e e' : Exchange ℓ}
    {o : Object} (h : Sound l (before ++ e :: (between ++ e' :: rest)))
    (he : e.deleted = some o) (he' : e'.deleted = some o) : ∃ x ∈ between, x.made = some o := by
  obtain ⟨-, -, hrest⟩ := sound_append.mp h
  obtain ⟨-, ⟨hnamed, -⟩, -⟩ := sound_append.mp hrest
  -- the second deletion names a live object, and right after the first it was not live
  have hlive := hnamed o (Exchange.mem_named_of_deleted he')
  obtain hold | hmade := mem_live_replay hlive
  · simp [live_after, Exchange.made_of_deleted he, he] at hold
  · exact hmade

end Ledger

end Gl

end ShaderSketch
