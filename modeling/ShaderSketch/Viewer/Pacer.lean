/-!
# The pace of redraws

Times and periods are whole nanoseconds.

## Main definitions

* `Pacer` : how long a frame lasts, and when the next one is due
* `Pacer.consult` : asks whether to draw now

## Design notes

A frame that is late is followed by one a period later, not by those that were missed.
-/

namespace ShaderSketch

/-- How long a frame lasts, and when the next one is due. -/
structure Pacer where
  period : Nat
  upcoming : Option Nat := none
  deriving Repr, DecidableEq

/-- Whether to draw now, and when to ask again. -/
structure Pacer.Turn where
  draw : Bool
  wake : Nat
  deriving Repr, DecidableEq

namespace Pacer

/-- Thirty frames a second. -/
def defaultPeriod : Nat := 1000000000 / 30

/-- Asks at a time whether to draw. When nothing moves there is no next frame, and the pace starts
afresh. -/
def consult (p : Pacer) (moving : Bool) (now : Nat) : Option Turn × Pacer :=
  let drawing : Turn := ⟨true, now + p.period⟩
  if !moving then (none, { p with upcoming := none })
  else
    match p.upcoming with
    | some time =>
      if now < time then (some ⟨false, time⟩, p)
      else (some drawing, { p with upcoming := some drawing.wake })
    | none => (some drawing, { p with upcoming := some drawing.wake })

end Pacer

end ShaderSketch
