import ShaderSketch.Canvas.Failure

/-!
# Routines

What is done with a surface, as a value: a routine is over, or it makes a request and goes on with
the answer.

## Main definitions

* `Surface.Request` : a graphics call, or to show what was drawn
* `Surface.View` : what a surface says about itself
* `Surface` : a surface, by its view and its answers
* `Routine` : what is done with a surface
* `Routine.run` : the result of a routine on a surface

## Design notes

A routine depends on a surface through the answers alone. Laws that hold whatever a driver does are
statements about routines, with no surface in them.
-/

namespace ShaderSketch

/-- What is asked of a surface: a graphics call, or to show what was drawn. -/
inductive Surface.Request (ℓ : Type)
  | gl (call : Gl.Call ℓ)
  | present
  deriving Repr, DecidableEq

/-- What a surface answers to a request. -/
@[reducible] def Surface.Request.Answer {ℓ : Type} : Surface.Request ℓ → Type
  | .gl call => call.Answer
  | .present => Except Canvas.Failure Unit

/-- What a surface says about itself: its size in pixels, whether it has a graphics context, and the
seconds since it was made. -/
structure Surface.View where
  width : UInt32
  height : UInt32
  hasContext : Bool
  seconds : Binary

/-- A surface with states `σ` that names the places of uniforms by `ℓ`. -/
structure Surface (σ ℓ : Type) where
  view : σ → Surface.View
  answer : (request : Surface.Request ℓ) → σ → request.Answer × σ

/-- What is done with a surface, with a result of type `α`. -/
inductive Routine (ℓ α : Type)
  | done (result : α)
  | ask (request : Surface.Request ℓ) (next : request.Answer → Routine ℓ α)

namespace Routine

/-- One routine after another. -/
def bind {ℓ α β : Type} : Routine ℓ α → (α → Routine ℓ β) → Routine ℓ β
  | .done a, f => f a
  | .ask request next, f => .ask request fun answer => (next answer).bind f

instance {ℓ : Type} : Monad (Routine ℓ) where
  pure := .done
  bind := bind

/-- The routine that makes one graphics call. -/
def call {ℓ : Type} (c : Gl.Call ℓ) : Routine ℓ c.Answer := .ask (.gl c) .done

/-- The routine that shows what was drawn. -/
def present {ℓ : Type} : Routine ℓ (Except Canvas.Failure Unit) := .ask .present .done

/-- The result of a routine, and the state that it leaves. -/
def run {σ ℓ α : Type} (s : Surface σ ℓ) : Routine ℓ α → σ → α × σ
  | .done a, x => (a, x)
  | .ask request next, x =>
    let (answer, x) := s.answer request x
    (next answer).run s x

end Routine

end ShaderSketch
