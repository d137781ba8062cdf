import ShaderSketch.Proofs.Attempt
import ShaderSketch.Proofs.Ledger

/-!
# What an attempt leaves behind

An attempt makes objects as it goes and can end in many places.  Wherever it ends, it has named live
objects only, and what it leaves is the buffer with the rectangle.

## Main definitions

* `Frame.gain` — the ledger with the object that a routine results in
* `Frame.quad` — the objects of a context that has the rectangle and nothing else

## Main results

* `Frame.Assembling.ledger` : making a program leaves the program or nothing
* `Frame.Attempting.ledger` : an attempt leaves the rectangle or nothing

## Design notes

There is one law for each conversation of `ShaderSketch.Proofs.Attempt`, with one case for each way
that the conversation can end.  The laws compose by `Gl.Ledger.sound_append` and
`Gl.Ledger.replay_append`.
-/

namespace ShaderSketch.Frame

open Gl Surface

variable {ℓ : Type} {l : Ledger} {said : List (Exchange ℓ)}

/-! ## Programs -/

/-- The ledger with the object that a routine results in, if there is one.  A failure leaves the
ledger as it was, which is all there is to say about clearing up. -/
def gain (kind : Kind) (l : Ledger) : Except Canvas.Failure Handle → Ledger
  | .ok h => l.add ⟨kind, h⟩
  | .error _ => l

@[simp] theorem gain_ok {kind : Kind} {h : Handle} : gain kind l (.ok h) = l.add ⟨kind, h⟩ := rfl

@[simp] theorem gain_error {kind : Kind} {e : Canvas.Failure} : gain kind l (.error e) = l := rfl

/-- What was live stays live. -/
theorem mem_gain {kind : Kind} {o : Object} {result : Except Canvas.Failure Handle}
    (h : o ∈ l.live) : o ∈ (gain kind l result).live := by
  cases result with
  | error e => exact h
  | ok handle => exact List.mem_cons_of_mem _ h

/-- Compiling is sound, and leaves the shader or nothing. -/
theorem Compiling.ledger {stage : Stage} {source : String} {result : Except Canvas.Failure Handle}
    (h : Compiling stage source said result) (fresh : l.Fresh said) :
    l.Sound said ∧ l.replay said = gain .shader l result := by
  cases h with
  | refused reason =>
      simp [Ledger.after, Exchange.named, Exchange.draws]
  | accepted shader =>
      simp [Ledger.after, Exchange.named, Exchange.draws]
  | rejected shader log =>
      obtain ⟨hnew, -⟩ := fresh
      have hback : (l.add ⟨.shader, shader⟩).drop ⟨.shader, shader⟩ = l :=
        Ledger.drop_add (hnew _ rfl)
      simp [Ledger.after, Exchange.named, Exchange.draws, hback]

/-- A shader that was compiled was not live before. -/
theorem Compiling.fresh_of_ok {stage : Stage} {source : String} {shader : Handle}
    (h : Compiling stage source said (.ok shader)) (fresh : l.Fresh said) :
    ⟨.shader, shader⟩ ∉ l.live := by
  cases h with
  | accepted => exact fresh.1 _ rfl

/-- Linking live shaders is sound, and leaves the program or nothing. -/
theorem Linking.ledger {vertex fragment : Handle} {result : Except Canvas.Failure Handle}
    (h : Linking vertex fragment said result) (fresh : l.Fresh said)
    (hvertex : ⟨.shader, vertex⟩ ∈ l.live) (hfragment : ⟨.shader, fragment⟩ ∈ l.live) :
    l.Sound said ∧ l.replay said = gain .program l result := by
  cases h with
  | refused reason =>
      simp [Ledger.after, Exchange.named, Exchange.draws]
  | accepted program =>
      simp [joining, Ledger.after, Exchange.named, Exchange.draws, hvertex, hfragment]
  | rejected program log =>
      obtain ⟨hnew, -⟩ := fresh
      have hback : (l.add ⟨.program, program⟩).drop ⟨.program, program⟩ = l :=
        Ledger.drop_add (hnew _ rfl)
      simp [joining, Ledger.after, Exchange.named, Exchange.draws, hvertex, hfragment, hback]

/-- Both shaders can be taken from under the program that was linked from them. -/
theorem drop_shaders {vertex fragment : Handle} {result : Except Canvas.Failure Handle}
    (hvertex : ⟨.shader, vertex⟩ ∉ l.live)
    (hfragment : ⟨.shader, fragment⟩ ∉ (l.add ⟨.shader, vertex⟩).live) :
    ((gain .program ((l.add ⟨.shader, vertex⟩).add ⟨.shader, fragment⟩) result).drop
      ⟨.shader, vertex⟩).drop ⟨.shader, fragment⟩ = gain .program l result := by
  obtain ⟨hne, hold⟩ := Ledger.not_mem_of_not_mem_add hfragment
  -- the newest object is dropped last, so each drop moves past what was made later
  have hpair : (((l.add ⟨.shader, vertex⟩).add ⟨.shader, fragment⟩).drop
      ⟨.shader, vertex⟩).drop ⟨.shader, fragment⟩ = l := by
    rw [Ledger.drop_add_of_ne hne, Ledger.drop_add hvertex, Ledger.drop_add hold]
  cases result with
  | error e => exact hpair
  | ok program =>
      rw [gain_ok, Ledger.drop_add_of_ne (by simp), Ledger.drop_add_of_ne (by simp), hpair, gain_ok]

/-- Making a program is sound, and leaves the program or nothing. -/
theorem Assembling.ledger {source : String} {result : Except Canvas.Failure Handle}
    (h : Assembling source said result) (fresh : l.Fresh said) :
    l.Sound said ∧ l.replay said = gain .program l result := by
  cases h with
  | noVertex vertexStage => exact vertexStage.ledger fresh
  | noFragment vertexStage fragmentStage =>
      -- the second stage starts on the ledger that the first one leaves
      obtain ⟨fresh₁, fresh⟩ := Ledger.fresh_append.mp fresh
      obtain ⟨sound₁, replay₁⟩ := vertexStage.ledger fresh₁
      rw [replay₁] at fresh
      obtain ⟨fresh₂, -⟩ := Ledger.fresh_append.mp fresh
      obtain ⟨sound₂, replay₂⟩ := fragmentStage.ledger fresh₂
      have hvertex := vertexStage.fresh_of_ok fresh₁
      simp only [Ledger.sound_append, Ledger.replay_append, replay₁, replay₂]
      refine ⟨⟨sound₁, sound₂, ?_⟩, ?_⟩
      · simp [Exchange.named, Exchange.draws]
      · simp [Ledger.after, Ledger.drop_add hvertex]
  | joined vertexStage fragmentStage link =>
      -- and linking on the ledger with both shaders
      obtain ⟨fresh₁, fresh⟩ := Ledger.fresh_append.mp fresh
      obtain ⟨sound₁, replay₁⟩ := vertexStage.ledger fresh₁
      rw [replay₁] at fresh
      obtain ⟨fresh₂, fresh⟩ := Ledger.fresh_append.mp fresh
      obtain ⟨sound₂, replay₂⟩ := fragmentStage.ledger fresh₂
      rw [replay₂] at fresh
      obtain ⟨fresh₃, -⟩ := Ledger.fresh_append.mp fresh
      obtain ⟨sound₃, replay₃⟩ := link.ledger fresh₃ (by simp [gain]) (by simp [gain])
      have hvertex := vertexStage.fresh_of_ok fresh₁
      have hfragment := fragmentStage.fresh_of_ok fresh₂
      -- the fragment shader is still there when the vertex shader has gone
      obtain ⟨hne, -⟩ := Ledger.not_mem_of_not_mem_add hfragment
      simp only [Ledger.sound_append, Ledger.replay_append, replay₁, replay₂, replay₃]
      refine ⟨⟨sound₁, sound₂, sound₃, ?_⟩, drop_shaders hvertex hfragment⟩
      simp only [ne_eq, Object.mk.injEq, true_and] at hne
      simp [Exchange.named, Exchange.draws, Ledger.after, mem_gain, hne]

/-! ## The frame -/

/-- The objects of a context that has the rectangle, when it is there, and nothing else. -/
def quad (rectangle : Option Handle) : List Object := rectangle.toList.map (⟨.buffer, ·⟩)

/-- Holding the rectangle is sound.  Afterwards its buffer is there, next to the program and nothing
else. -/
theorem Holding.ledger {rectangle : Option Handle} {program buffer : Handle}
    (h : Holding rectangle said buffer) (hlive : l.live = ⟨.program, program⟩ :: quad rectangle) :
    l.Sound said ∧ ⟨.program, program⟩ ∈ (l.replay said).live ∧
      ⟨.buffer, buffer⟩ ∈ (l.replay said).live ∧
      (l.replay said).live.filter (· ≠ ⟨.program, program⟩) = quad (some buffer) := by
  cases h with
  | held => simp [hlive, quad]
  | made => simp [Ledger.after, Exchange.named, Exchange.draws, hlive, quad]

/-- Feeding a program makes it current and binds the buffer. -/
theorem replay_feeding (l : Ledger) (view : View) (program buffer : Handle)
    (position : Option Nat) (resolution time : Option ℓ) :
    l.replay (feeding view program buffer position resolution time) =
      { l with current := some program, bound := some buffer } := by
  cases position <;> cases resolution <;> cases time <;> rfl

/-- Feeding a live program from a live buffer is sound. -/
theorem sound_feeding (view : View) (position : Option Nat) (resolution time : Option ℓ)
    {program buffer : Handle} (hprogram : ⟨.program, program⟩ ∈ l.live)
    (hbuffer : ⟨.buffer, buffer⟩ ∈ l.live) :
    l.Sound (feeding view program buffer position resolution time) := by
  cases position <;> cases resolution <;> cases time <;>
    simp [feeding, Ledger.after, Exchange.named, Exchange.draws, hprogram, hbuffer]

/-- Painting makes and deletes nothing. -/
theorem Painting.replay {view : View} {capture : Bool} {pixels : Pixels}
    (h : Painting view capture said pixels) : l.replay said = l := by
  cases h <;> rfl

/-- Painting with a current program is sound. -/
theorem Painting.sound {view : View} {capture : Bool} {pixels : Pixels}
    (h : Painting view capture said pixels) (hcurrent : l.current.isSome) : l.Sound said := by
  cases h <;> simp [strokes, Ledger.after, Exchange.named, Exchange.draws, hcurrent]

/-- **An attempt leaves the rectangle or nothing.**  On a context that holds the rectangle at most,
an attempt names live objects only, and wherever it ends it has taken away what it made but the
rectangle.  Freshness is asked of what is said in this attempt only, and the objects at its start
are known to be the rectangle's, so that one attempt can be put behind another: its end is the start
that the next one needs. -/
theorem Attempting.ledger {view : View} {rectangle : Option Handle} {source : String}
    {capture : Bool} {outcome : Except Canvas.Failure Pixels × Option Handle}
    (h : Attempting view rectangle source capture said outcome) (fresh : l.Fresh said)
    (hlive : l.live = quad rectangle) :
    l.Sound said ∧ (l.replay said).live = quad outcome.2 := by
  cases h with
  | noContext => exact ⟨trivial, hlive⟩
  | noProgram _ failed =>
      obtain ⟨sound, replay⟩ := failed.ledger fresh
      rw [replay]
      exact ⟨sound, hlive⟩
  | noRectangle _ assembled lacking =>
      obtain ⟨sound, replay⟩ := assembled.ledger (Ledger.fresh_append.mp fresh).1
      simp only [Ledger.sound_append, Ledger.replay_append, replay, gain_ok]
      refine ⟨⟨sound, ?_⟩, ?_⟩
      · simp [Exchange.named, Exchange.draws, Ledger.after]
      · simp [Ledger.after, hlive, lacking, quad]
  | @finished _ said' _ program buffer _ _ assembled holding position resolution time painting =>
      -- the program lies next to the rectangle until it is deleted at the end
      obtain ⟨sound₁, replay₁⟩ := assembled.ledger (Ledger.fresh_append.mp fresh).1
      have hmade : (gain .program l (.ok program)).live = ⟨.program, program⟩ :: quad rectangle :=
        congrArg (_ :: ·) hlive
      obtain ⟨sound₂, hprogram, hbuffer, hrest⟩ := holding.ledger hmade
      have sound₃ := sound_feeding view position resolution time hprogram hbuffer
      have sound₄ := painting.sound
        (l := { (gain .program l (.ok program)).replay said' with
          current := some program, bound := some buffer }) rfl
      simp only [Ledger.sound_append, Ledger.replay_append, replay₁, replay_feeding,
        painting.replay]
      refine ⟨⟨sound₁, sound₂, sound₃, sound₄, ?_⟩, ?_⟩
      · simpa [Exchange.named, Exchange.draws, Ledger.after] using hprogram
      · simpa [Ledger.after] using hrest

end ShaderSketch.Frame
