/-!
# Cancellation

A token tells whether the request that it was made for has been given up. Tokens that come from one
another form a family and share one flag, which is never taken back. A guard belongs to a token's
family and sets the flag when it is dropped.

## Main definitions

* `Cancellation.Families` : the flags of all families, `Cancellation.Token` : a token
* `Cancellation.Registry` : the tokens and guards handed out so far
* `Cancellation.Step`, `Cancellation.Registry.step` : what is done with them
-/

namespace ShaderSketch.Cancellation

/-- The flags of all families, the oldest first. -/
structure Families where
  flags : List Bool := []
  deriving Repr, DecidableEq

/-- A token, by its family. -/
structure Token where
  family : Nat
  deriving Repr, DecidableEq

namespace Families

/-- A token of a new family, which is not cancelled. -/
def create (f : Families) : Token × Families := (⟨f.flags.length⟩, ⟨f.flags ++ [false]⟩)

/-- Cancels the family of a token. -/
def cancel (f : Families) (t : Token) : Families := ⟨f.flags.set t.family true⟩

/-- Whether the family of a token is cancelled. -/
def isCancelled (f : Families) (t : Token) : Bool := f.flags[t.family]?.getD false

end Families

/-- The tokens and the guards handed out so far; a dropped guard leaves its place empty. -/
structure Registry where
  families : Families := {}
  tokens : List Token := []
  guards : List (Option Token) := []
  deriving Repr, DecidableEq

/-- What is done with tokens and guards, which are named by the order in which they came. -/
inductive Step
  | new
  | clone (token : Nat)
  | cancel (token : Nat)
  | guard (token : Nat)
  | guardToken (guard : Nat)
  | dropGuard (guard : Nat)
  | wait (token : Nat)
  | waitCancel (token cancelled : Nat)
  deriving Repr, DecidableEq

/-- What a step answers: nothing, that its guard is gone, or whether waiting was over, at once or
before and after a cancellation; dropping a guard answers whether it was still held. -/
inductive Answer
  | done
  | dropped
  | ready (now : Bool)
  | readyAfter (before after : Bool)
  deriving Repr, DecidableEq

namespace Registry

/-- Hands out a token. -/
def hand (r : Registry) (t : Token) : Registry := { r with tokens := r.tokens ++ [t] }

/-- Cancels the family of a token. -/
def cancel (r : Registry) (t : Token) : Registry := { r with families := r.families.cancel t }

/-- Whether the family of a token is cancelled. -/
def isCancelled (r : Registry) (t : Token) : Bool := r.families.isCancelled t

/-- A token by its number. -/
def token (r : Registry) (i : Nat) : Token := r.tokens[i]?.getD ⟨r.families.flags.length⟩

/-- The registry with one new token. -/
def create (r : Registry) : Registry :=
  let (t, families) := r.families.create
  { r with families }.hand t

/-- One step. -/
def step (r : Registry) : Step → Answer × Registry
  | .new => (.done, r.create)
  | .clone i => (.done, r.hand (r.token i))
  | .cancel i => (.done, r.cancel (r.token i))
  | .guard i => (.done, { r with guards := r.guards ++ [some (r.token i)] })
  | .guardToken i =>
    match r.guards[i]?.join with
    | some t => (.done, r.hand t)
    | none => (.dropped, r)
  | .dropGuard i =>
    match r.guards[i]?.join with
    | some t => (.ready true, { r with guards := r.guards.set i none }.cancel t)
    | none => (.ready false, r)
  | .wait i => (.ready (r.isCancelled (r.token i)), r)
  | .waitCancel i j =>
    let after := r.cancel (r.token j)
    (.readyAfter (r.isCancelled (r.token i)) (after.isCancelled (r.token i)), after)

/-- Which tokens are cancelled. -/
def cancelled (r : Registry) : List Bool := r.tokens.map r.isCancelled

end Registry

end ShaderSketch.Cancellation
