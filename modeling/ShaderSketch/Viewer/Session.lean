import ShaderSketch.Canvas.MemorySurface
import ShaderSketch.Service.Connection
import ShaderSketch.Viewer.Basic
import ShaderSketch.Viewer.Prompts

/-!
# Sessions

A session is a run of the viewer on a desktop that follows a script. The window has a surface in
memory, the service cannot be reached, and all that can be seen from outside is kept in a log.

## Main definitions

* `Viewer.Desktop` : what goes wrong on the desktop
* `Viewer.Facility`, `Viewer.Desktop.launch` : what is opened, and opening it
* `Viewer.Step` : what the script says
* `Viewer.Record`, `Viewer.LogEntry` : what is kept
* `Viewer.Session`, `Viewer.Session.step` : the state of a run, and what a step does
* `Viewer.run` : a whole run

## Design notes

A request fails at once when the service cannot be reached, but what became of it is known to the
viewer only when it is told. Until then the request counts as running.
-/

namespace ShaderSketch.Viewer

/-- What goes wrong on the desktop: whether windows have no graphics context, what is said when the
workers, the client of the service, the event loop, a window or the running loop fails, whether no
stream can be read beside the loop, and what is said when the first frame cannot be shown. -/
structure Desktop where
  lacksContext : Bool := false
  workersCreation : Option String := none
  clientCreation : Option String := none
  loopCreation : Option String := none
  windowCreation : Option String := none
  running : Option String := none
  refusesReader : Bool := false
  firstFrame : Option String := none

/-- What a run opens: the workers that requests run on, the client that sends them, the event loop,
the window, and the reader of the stream of prompts. -/
inductive Facility
  | workers
  | client
  | eventLoop
  | window
  | reader
  deriving Repr, DecidableEq

namespace Desktop

/-- What is said when a facility cannot be opened.  A reader is not insisted on. -/
def refusal? (d : Desktop) : Facility → Option Error
  | .workers => d.workersCreation.map .workers
  | .client => d.clientCreation.map fun reason => .client (.undelivered reason)
  | .eventLoop => d.loopCreation.map .eventLoop
  | .window => d.windowCreation.map .window
  | .reader => none

/-- Opens facilities one after the other, up to the first that cannot be opened: those that are
open then, and what is said. -/
def launch (d : Desktop) : List Facility → List Facility × Option Error
  | [] => ([], none)
  | facility :: rest =>
    match d.refusal? facility with
    | some failure => ([], some failure)
    | none =>
      let (opened, failure) := d.launch rest
      (facility :: opened, failure)

end Desktop

/-- What every run opens, in this order. -/
def Facility.needed : List Facility := [.workers, .client, .eventLoop, .window]

/-- What the script says: something happens to the viewer, to its window, to the request that is
running, to the stream of prompts, or to the driver. -/
inductive Step
  | event (e : Event)
  | resize (width height : UInt32)
  | answered (result : Except Service.Failure String)
  | answerRequest
  | typed (bytes : List UInt8)
  | typedEnd
  | spoilFrame (reason : String)
  | injure (injury : Gl.Memory → Gl.Memory)

/-- What can be seen of an event: its name, the lines written out and to the errors, the title, how
often the window is to be drawn, the sizes that the surface was fitted to, when the viewer wants to
be woken up, whether it wants to leave, the prompts of the requests sent, the count of frames shown,
the graphics calls, and how many shaders, programs and buffers there are. -/
structure Record where
  event : String := ""
  printed : List String := []
  errors : List String := []
  title : String
  redraws : Nat := 0
  fitted : List (UInt32 × UInt32) := []
  sleep : Sleep := .forever
  leaving : Bool := false
  sent : List String := []
  shown : Nat := 0
  calls : List Gl.Event := []
  live : Option (Nat × Nat × Nat) := none

/-- Why a step did nothing. -/
inductive Idleness
  | noRequest
  | noPrompt
  | notRead
  | readerStopped
  deriving Repr, DecidableEq

/-- The wording of a reason. -/
def Idleness.text : Idleness → String
  | .noRequest => "no request"
  | .noPrompt => "no prompt"
  | .notRead => "stdin is not read"
  | .readerStopped => "reader has stopped"

/-- What is kept: a window opened, an event was handled, a step did nothing, or what became of a
request that was still running at the end. -/
inductive LogEntry
  | opened (window : WindowSpec)
  | handled (r : Record)
  | nothing (event : String) (why : Idleness)
  | inFlight (result : Except Service.Failure String)

namespace Record

/-- What stays as it is from one event to the next. -/
def next (r : Record) (event : String) : Record :=
  { event, title := r.title, sleep := r.sleep, leaving := r.leaving }

/-- What can be seen of an action. A surface is fitted only to a window that is not empty, and only
where there is a context. -/
def perform (hasContext : Bool) (r : Record) : Action → Record
  | .setTitle title => { r with title }
  | .printLine text => { r with printed := r.printed ++ [text] }
  | .printError text => { r with errors := r.errors ++ [text] }
  | .drawWindow => { r with redraws := r.redraws + 1 }
  | .fitSurface width height =>
    if hasContext ∧ width ≠ 0 ∧ height ≠ 0 then { r with fitted := r.fitted ++ [(width, height)] }
    else r
  | .send prompt _ => { r with sent := r.sent ++ [prompt] }
  | .sleep sleep => { r with sleep }
  | .leave => { r with leaving := true }

/-- What can be seen of the surface, which was in one state before and is in another now. -/
def observe (r : Record) (before after : MemorySurface) : Record :=
  { r with
    shown := after.shown
    calls := after.gl.events.drop before.gl.events.length
    live := if after.hasContext then
      some (after.gl.shaders.size, after.gl.programs.size, after.gl.buffers.size) else none }

end Record

/-- The state of a run: the viewer, the service, what can be seen, the stream of prompts if there is
one, whether a request is running, and the log. -/
structure Session where
  viewer : Viewer MemorySurface
  service : Service.Endpoint
  seen : Record
  reader : Option Prompts.Reader := none
  requested : Bool := false
  log : List LogEntry := []

namespace Session

/-- Keeps an entry. -/
def keep (s : Session) (entry : LogEntry) : Session := { s with log := s.log ++ [entry] }

/-- Changes the surface. -/
def onSurface (s : Session) (f : MemorySurface → MemorySurface) : Session :=
  let canvas := s.viewer.canvas
  { s with viewer := { s.viewer with canvas := { canvas with surface := f canvas.surface } } }

/-- Hands an event to the viewer under a name. -/
def deliver (s : Session) (name : String) (e : Event) : Session :=
  let (actions, viewer) := s.viewer.react MemorySurface.plain e
  let surface := s.viewer.canvas.surface
  let seen := (actions.foldl (Record.perform surface.hasContext) (s.seen.next name)).observe surface
    viewer.canvas.surface
  { s with viewer, seen, requested := s.requested || !seen.sent.isEmpty }.keep (.handled seen)

/-- What becomes of a request. -/
def result (s : Session) : Except Service.Failure String :=
  Service.fetch .unreachable s.service

/-- Hands a result to the viewer; if it leaves a request running, what became of that follows. -/
def deliverResult (s : Session) (name : String)
    (result : Except Service.Failure String) : Session :=
  let s := s.deliver name (.answered result)
  if s.requested ∧ !s.seen.leaving then
    { s.deliver "superseded" (.answered s.result) with requested := false }
  else s

/-- Hands prompts to the viewer, after the stream was read on. -/
def deliverPrompts (s : Session) (name : String)
    (read : Prompts.Reader → List String × Prompts.Reader) : Session :=
  match s.reader with
  | none => s.keep (.nothing name .notRead)
  | some reader =>
    if reader.reading then
      let (prompts, reader) := read reader
      let s := { s with reader := some reader }
      if prompts.isEmpty then s.keep (.nothing name .noPrompt)
      else prompts.foldl (fun s prompt => s.deliver name (.prompted prompt)) s
    else s.keep (.nothing name .readerStopped)

/-- One step, whose events go by a name. No request ever arrives at a service that cannot be
reached, so there is none to answer. -/
def step (s : Session) (name : String) : Step → Session
  | .event e => s.deliver name e
  | .resize width height =>
    (s.onSurface (·.resize width height)).deliver name (.resized width height)
  | .answered result => s.deliverResult name result
  | .answerRequest => s.keep (.nothing name .noRequest)
  | .typed bytes => s.deliverPrompts name (·.feed bytes)
  | .typedEnd => s.deliverPrompts name (·.finish)
  | .spoilFrame reason => s.onSurface (·.spoilNextFrame reason)
  | .injure injury =>
    s.onSurface fun m => if m.hasContext then { m with gl := injury m.gl } else m

/-- The steps of a script, until the viewer wants to leave. -/
def steps (s : Session) : List (String × Step) → Session
  | [] => s
  | (name, step) :: rest => if s.seen.leaving then s else (s.step name step).steps rest

/-- The session with a window that was just opened. -/
def opened (d : Desktop) (p : Plan) (files : Tree) : Session :=
  let window := p.options.window
  let surface : MemorySurface := {
    width := window.width, height := window.height, hasContext := !d.lacksContext
    nextFailure := d.firstFrame }
  { viewer := .ofPlan p surface files, service := p.options.service
    seen := { title := window.title }
    reader := if p.readsPrompts ∧ !d.refusesReader then some {} else none
    log := [.opened window] }

/-- The end of a session. -/
def finish (s : Session) : Session :=
  let s := s.deliver "loop_exiting" .ending
  if s.requested then s.keep (.inFlight s.result) else s

end Session

/-- What a run comes to: what was opened, the log, why it did not end well, and the files. -/
structure Outcome where
  opened : List Facility := []
  log : List LogEntry := []
  failure : Option Error := none
  files : Tree

/-- A whole run. Nothing opens before everything is found out that can be. -/
def run (d : Desktop) (e : Environment) (files : Tree) (a : Arguments)
    (script : List (String × Step)) : Outcome :=
  match plan e files a with
  | .error failure => { failure := some failure, files }
  | .ok p =>
    match d.launch Facility.needed with
    | (opened, some failure) => { opened, failure := some failure, files }
    | (opened, none) =>
      let s := (((Session.opened d p files).deliver "init" .started).steps script).finish
      { opened := opened ++ if s.reader.isSome then [.reader] else []
        log := s.log, files := s.viewer.files
        failure := (d.running.map .loop) <|> s.viewer.failure }

end ShaderSketch.Viewer
