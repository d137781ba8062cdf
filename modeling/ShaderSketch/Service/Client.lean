import ShaderSketch.Service.Body
import ShaderSketch.Service.Endpoint

/-!
# Asking for shaders

A call sends one request for a prompt and gives up as soon as it is cancelled. Nothing is sent for a
blank prompt, nor when the call is cancelled before it starts.

## Main definitions

* `Service.Response` : a status and a body
* `Service.Fate` : what becomes of a request
* `Service.Interruption` : when a call is cancelled
* `Service.Call` : how far a call has come
* `Service.Client` : an endpoint, a service that treats all requests alike, and what it was sent
* `Service.Client.poll` : goes on with a call, `Service.Client.ask` : a whole call

## Design notes

A call goes on when it is polled, and polls do not overlap. When it waits and is polled again, a
cancellation is noticed before a reply.
-/

namespace ShaderSketch.Service

/-- A status and a body. -/
structure Response where
  status : Nat
  body : String
  deriving Repr, DecidableEq

/-- Whether a status stands for success. -/
def Response.isSuccess (r : Response) : Bool := 200 ≤ r.status && r.status < 300

/-- The source of a response. -/
def Response.source (r : Response) : Except Failure String :=
  if r.isSuccess then Body.source r.body else .error (.refused r.status)

/-- What becomes of a request: a response, a failure on the way, or nothing ever. -/
inductive Fate
  | answered (r : Response)
  | lost (reason : String)
  | silence
  deriving Repr, DecidableEq

/-- The fate of a request that is answered with one block of shader code. -/
def Fate.ofSource (source : String) : Fate := .answered ⟨200, Body.ofSource source⟩

/-- A request on its way. -/
structure Sent where
  url : Url
  prompt : String
  deriving Repr, DecidableEq

/-- When a call is cancelled: not by itself, before it starts, or while it waits. -/
inductive Interruption
  | none
  | before
  | during
  deriving Repr, DecidableEq

/-- What can happen while a call is under way: it is polled, or its token is cancelled. -/
inductive Event
  | poll
  | cancel
  deriving Repr, DecidableEq

/-- What happens to a call until nothing wakes it any more. -/
def Interruption.events : Interruption → List Event
  | .none => [.poll]
  | .before => [.cancel, .poll]
  | .during => [.poll, .cancel, .poll]

/-- How far a call has come: it was made, it waits for the reply to its request, or it is over. -/
inductive Call
  | made (prompt : String)
  | waiting
  | ended (result : Except Failure String)
  deriving Repr

/-- The result of a call that is over. -/
def Call.result? : Call → Option (Except Failure String)
  | .ended result => some result
  | _ => none

/-- The reply to a request, as far as there is one: a response, or a failure on the way. -/
def Fate.reply? : Fate → Option (Except Failure Response)
  | .answered r => some (.ok r)
  | .lost reason => some (.error (.undelivered reason))
  | .silence => none

/-- An endpoint, the fate of all requests to it, those that it was sent, and whether the token that
all calls share is cancelled. -/
structure Client where
  endpoint : Endpoint
  fate : Fate
  sent : List Sent := []
  cancelled : Bool := false
  deriving Repr, DecidableEq

namespace Client

/-- Sends a request. -/
def send (c : Client) (prompt : String) : Client :=
  { c with sent := c.sent ++ [⟨c.endpoint.target, prompt⟩] }

/-- A call that waits, polled: a cancellation comes first, and then the reply. -/
def race (c : Client) : Call :=
  if c.cancelled then .ended (.error .givenUp)
  else
    match c.fate.reply? with
    | some reply => .ended (reply.bind Response.source)
    | none => .waiting

/-- Goes on with a call as far as it gets. -/
def poll (c : Client) : Call → Call × Client
  | .made prompt =>
    if Text.blank prompt then (.ended (.error .blankPrompt), c)
    else if c.cancelled then (.ended (.error .givenUp), c)
    else ((c.send prompt).race, c.send prompt)
  | .waiting => (c.race, c)
  | .ended result => (.ended result, c)

/-- A call and its client after an event. -/
def step : Call × Client → Event → Call × Client
  | (call, c), .poll => c.poll call
  | (call, c), .cancel => (call, { c with cancelled := true })

/-- A call from its beginning to its result; one that nobody answers and nobody cancels has none. -/
def ask (c : Client) (prompt : String) (interruption : Interruption) :
    Option (Except Failure String) × Client :=
  let (call, c) := interruption.events.foldl step (.made prompt, c)
  (call.result?, c)

end Client

end ShaderSketch.Service
