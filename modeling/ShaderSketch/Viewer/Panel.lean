import ShaderSketch.Canvas.Basic
import ShaderSketch.Service.Failure
import ShaderSketch.Text.Blank

/-!
# The panel

The prompt, the source on screen, and what went wrong last. No failure is fatal: it becomes a
message, and the canvas keeps the last frame that was drawn.

## Main definitions

* `Panel` : the state
* `Panel.ask`, `Panel.receive` : a request starts and ends
* `Panel.display`, `Panel.displayInitial` : a source comes on screen
* `Panel.refresh` : the source on screen is drawn again

## Design notes

A refresh that succeeds takes back the message of a refresh that failed, and no other; for this the
panel remembers which of the two its message is.
-/

namespace ShaderSketch

/-- The prompt, the source on screen, whether a request is running, what went wrong last, and
whether that was a refresh. -/
structure Panel where
  prompt : String := ""
  source : String := Shader.initialSource
  waiting : Bool := false
  complaint : Option String := none
  fromRefresh : Bool := false
  deriving Repr, DecidableEq

namespace Panel

/-- The message for a request that failed. -/
def requestFailed : String := "Failed to generate shader"

/-- The label of the button while nothing is running. -/
def idleLabel : String := "Generate Shader"

/-- The label of the button while a request is running. -/
def busyLabel : String := "Generating..."

/-- The message for a source that was not drawn. -/
def displayFailed (e : Canvas.Failure) : String := "Failed to compile shader: " ++ e.message

/-- The panel with another prompt. -/
def withPrompt (p : Panel) (prompt : String) : Panel := { p with prompt }

/-- Whether the source on screen speaks of the time, and so may change from frame to frame. -/
def readsTime (p : Panel) : Bool := Text.contains Shader.time.toList p.source.toList

/-- Whether a request may start. -/
def mayAsk (p : Panel) : Bool := !p.waiting && !Text.blank p.prompt

/-- The label of the button. -/
def label (p : Panel) : String := if p.waiting then busyLabel else idleLabel

/-- Starts a request, if one may start, and hands out its prompt. -/
def ask (p : Panel) : Option String × Panel :=
  if p.mayAsk then
    (some p.prompt, { p with complaint := none, fromRefresh := false, waiting := true })
  else (none, p)

variable {σ ℓ : Type}

/-- Draws a source; one that is drawn comes on screen, and of one that is not the message stays. -/
def display (s : Surface σ ℓ) (source : String) (p : Panel) (c : Canvas σ) :
    Bool × Panel × Canvas σ :=
  match c.draw s source with
  | (.ok _, c) => (true, { p with source, complaint := none, fromRefresh := false }, c)
  | (.error e, c) =>
    (false, { p with complaint := some (displayFailed e), fromRefresh := false }, c)

/-- Draws the initial source. -/
def displayInitial (s : Surface σ ℓ) (p : Panel) (c : Canvas σ) : Bool × Panel × Canvas σ :=
  p.display s Shader.initialSource c

/-- Ends a request with its result. A request that was given up leaves no message. -/
def receive (s : Surface σ ℓ) (result : Except Service.Failure String) (p : Panel)
    (c : Canvas σ) : Panel × Canvas σ :=
  let p := { p with waiting := false }
  match result with
  | .ok source => (p.display s source c).2
  | .error e => (if e.isGivenUp then p else { p with complaint := some requestFailed }, c)

/-- Draws the source on screen again. -/
def refresh (s : Surface σ ℓ) (p : Panel) (c : Canvas σ) : Panel × Canvas σ :=
  match c.draw s p.source with
  | (.ok _, c) =>
    (if p.fromRefresh then { p with complaint := none, fromRefresh := false } else p, c)
  | (.error e, c) => ({ p with complaint := some (displayFailed e), fromRefresh := true }, c)

/-! ## Waiting -/

theorem waiting_display (s : Surface σ ℓ) (source : String) (p : Panel) (c : Canvas σ) :
    (p.display s source c).2.1.waiting = p.waiting := by
  unfold display
  rcases c.draw s source with ⟨_ | _, c'⟩ <;> rfl

theorem waiting_refresh (s : Surface σ ℓ) (p : Panel) (c : Canvas σ) :
    (p.refresh s c).1.waiting = p.waiting := by
  unfold refresh
  rcases c.draw s p.source with ⟨_ | _, c'⟩
  · rfl
  · dsimp only
    split <;> rfl

/-- However a request ends, the panel waits no more. -/
theorem waiting_receive (s : Surface σ ℓ) (result : Except Service.Failure String) (p : Panel)
    (c : Canvas σ) : (p.receive s result c).1.waiting = false := by
  cases result with
  | ok source => exact waiting_display s source _ c
  | error e =>
      unfold receive
      dsimp only
      split <;> rfl

end Panel

end ShaderSketch
