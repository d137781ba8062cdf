import ShaderSketch.Canvas.Saving
import ShaderSketch.Service.Cancellation
import ShaderSketch.Viewer.Pacer
import ShaderSketch.Viewer.Panel
import ShaderSketch.Viewer.Plan

/-!
# The viewer

The viewer is a window with a panel and a canvas. It is driven by events, and what it wants done
outside of itself it says in actions.

## Main definitions

* `Viewer` : the state, over a surface of state `σ`
* `Viewer.Event`, `Viewer.Action` : what happens to it, and what it wants done
* `Viewer.react` : what an event does
* `Viewer.ofPlan` : the state before the first event

## Design notes

While a request is running, `request` holds its token; to drop that token is to cancel the request.
When a picture is asked for, nothing is drawn but what belongs to the picture, and the viewer leaves
once the picture is written or has failed.
-/

namespace ShaderSketch

/-- The state of the viewer: panel and canvas, the title of its window, what comes on screen first
with the source from a file until that is shown, where a picture goes until it is written, the
tokens of all requests with the one of the running request, the pace of redraws, what went wrong
for good, and the files. -/
structure Viewer (σ : Type) where
  panel : Panel
  canvas : Canvas σ
  title : String
  opening : Opening
  source : Option String
  exportTo : Option Path
  tokens : Cancellation.Families := {}
  request : Option Cancellation.Token := none
  pacer : Pacer := ⟨Pacer.defaultPeriod, none⟩
  failure : Option Viewer.Error := none
  files : Tree

namespace Viewer

/-- What happens to the viewer: it starts, a prompt is typed, a request ends, the window is to be
drawn, has another size or is to be closed, there is nothing left to do at a time, the viewer ends,
or anything else. -/
inductive Event
  | started
  | prompted (prompt : String)
  | answered (result : Except Service.Failure String)
  | exposed
  | resized (width height : UInt32)
  | closed
  | idle (now : Nat)
  | ending
  | other

/-- When the viewer wants to be woken up. -/
inductive Sleep
  | forever
  | until (time : Nat)
  deriving Repr, DecidableEq

/-- What the viewer wants done: a title set, a line written out or to the errors, the window drawn,
the surface fitted to the window, a request sent that a token can cancel, to sleep, or to leave. -/
inductive Action
  | setTitle (title : String)
  | printLine (text : String)
  | printError (text : String)
  | drawWindow
  | fitSurface (width height : UInt32)
  | send (prompt : String) (token : Cancellation.Token)
  | sleep (how : Sleep)
  | leave
  deriving Repr, DecidableEq

variable {σ ℓ : Type}

/-- The state before the first event. -/
def ofPlan (p : Plan) (surface : σ) (files : Tree) : Viewer σ where
  panel := { prompt := match p.options.opening with
    | .prompt prompt => prompt
    | .initial | .file _ => "" }
  canvas := { surface }
  title := p.options.window.title
  opening := p.options.opening
  source := p.source
  exportTo := p.options.exportTo
  files

/-- What the title says about the state. -/
def mood (v : Viewer σ) : String :=
  if v.panel.waiting then v.panel.label
  else if v.panel.complaint.isSome then "error" else "ready"

/-- The action that brings the title up to date. -/
def retitle (v : Viewer σ) : Action := .setTitle (v.title ++ " [" ++ v.mood ++ "]")

/-- The actions that tell what became of a source or a request. -/
def tell (v : Viewer σ) : List Action :=
  [v.retitle, match v.panel.complaint with
    | some message => .printError message
    | none => .printLine v.panel.source]

/-- The viewer without a running request. -/
def dropRequest (v : Viewer σ) : Viewer σ :=
  match v.request with
  | some token => { v with tokens := v.tokens.cancel token, request := none }
  | none => v

/-- Sends a request for the prompt of the panel, unless one is running or there is nothing to ask
for. -/
def ask (v : Viewer σ) : List Action × Viewer σ :=
  match v.panel.ask with
  | (none, _) => ([], v)
  | (some prompt, panel) =>
    let (token, tokens) := v.tokens.create
    let v := { { v with panel, tokens }.dropRequest with request := some token }
    ([v.retitle, .send prompt token], v)

/-- Writes the picture of what is on screen, if one is asked for, and leaves. -/
def writePicture (s : Surface σ ℓ) (v : Viewer σ) : List Action × Viewer σ :=
  match v.exportTo with
  | none => ([], v)
  | some path =>
    let v := { v with exportTo := none }
    match v.panel.complaint with
    | some message => ([.leave], { v with failure := some (.shader message) })
    | none =>
      let (result, canvas, files) := v.canvas.saveAs s v.panel.source path v.files
      let failure := match result with
        | .ok _ => none
        | .error e => some (.picture path e)
      ([.leave], { v with canvas, files, failure })

/-- Shows the source from a file, if there is one. -/
def showSource (s : Surface σ ℓ) (v : Viewer σ) : List Action × Viewer σ :=
  match v.source with
  | none => ([], v)
  | some source =>
    let (_, panel, canvas) := v.panel.display s source v.canvas
    let v := { v with panel, canvas, source := none }
    (v.tell, v)

/-- Shows the initial source, which stays if the one from a file is not drawn, and then turns to
what was asked for. -/
def start (s : Surface σ ℓ) (v : Viewer σ) : List Action × Viewer σ :=
  let (_, panel, canvas) := v.panel.displayInitial s v.canvas
  let (shown, v) := { v with panel, canvas }.showSource s
  let (next, v) := match v.opening with
    | .prompt _ => v.ask
    | .initial | .file _ => v.writePicture s
  (shown ++ next, v)

/-- Ends a request with its result. -/
def receive (s : Surface σ ℓ) (result : Except Service.Failure String) (v : Viewer σ) :
    List Action × Viewer σ :=
  let v := v.dropRequest
  let (panel, canvas) := v.panel.receive s result v.canvas
  let v := { v with panel, canvas }
  let (next, v') := v.writePicture s
  (v.tell ++ next, v')

/-- Keeps the pace of redraws. -/
def keepPace (now : Nat) (v : Viewer σ) : List Action × Viewer σ :=
  let (turn, pacer) := v.pacer.consult (v.exportTo.isNone && v.panel.readsTime) now
  let v := { v with pacer }
  match turn with
  | some turn => ((if turn.draw then [.drawWindow] else []) ++ [.sleep (.until turn.wake)], v)
  | none => ([.sleep .forever], v)

/-- Draws the window again, unless a picture is still to be written. -/
def refresh (s : Surface σ ℓ) (v : Viewer σ) : Viewer σ :=
  if v.exportTo.isSome then v
  else
    let (panel, canvas) := v.panel.refresh s v.canvas
    { v with panel, canvas }

/-- What an event does. -/
def react (s : Surface σ ℓ) (v : Viewer σ) : Event → List Action × Viewer σ
  | .started => v.start s
  | .prompted prompt => { v with panel := v.panel.withPrompt prompt }.ask
  | .answered result => v.receive s result
  | .exposed => ([], v.refresh s)
  | .resized width height => ([.fitSurface width height, .drawWindow], v)
  | .closed => ([.leave], v.dropRequest)
  | .idle now => v.keepPace now
  | .ending =>
    let v := v.dropRequest
    ([], { v with canvas := v.canvas.release s })
  | .other => ([], v)

end Viewer

end ShaderSketch
