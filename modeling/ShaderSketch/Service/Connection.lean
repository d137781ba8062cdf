import ShaderSketch.Service.Client
import ShaderSketch.Text.Utf8

/-!
# Connections

## Main definitions

* `Service.Peer` : what the other end of a connection does
* `Service.post` : the outcome of sending a request to an address
* `Service.fetch` : the shader that an endpoint sends back
-/

namespace ShaderSketch.Service

/-- What the other end of a connection does: it cannot be reached, or it sends a status and a
body. -/
inductive Peer
  | unreachable
  | responds (status : Nat) (body : List UInt8)

/-- What is said about a request that failed, with the address as messages about a connection show
it, which is without user name and password. -/
def failedRequest (address problem shown : List Char) : Failure :=
  .undelivered <| String.ofList <|
    "requesting ".toList ++ address ++ ": ".toList ++ problem ++ " for url (".toList ++ shown
      ++ [')']

/-- The outcome of sending a request to an address. -/
def post (peer : Peer) (url : Url) : Except Failure Response :=
  let failed (problem : String) : Failure :=
    failedRequest url.render problem.toList { url with username := [], password := [] }.render
  if url.scheme = "http".toList ∨ url.scheme = "https".toList then
    match peer with
    | .unreachable => .error (failed "error sending request")
    | .responds status body => .ok ⟨status, String.ofList (Utf8.decodeLossy body)⟩
  else .error (failed "builder error")

/-- The outcome of sending a request to a text that may be no address. A URL of another kind is one
that no request can be made for. -/
def postTo (peer : Peer) (text : List Char) : Except Url.Error (Except Failure Response) :=
  (Url.read text).map fun
    | .address url => post peer url
    | .other _ => .error (failedRequest text "builder error".toList text)

/-- The shader that an endpoint sends back. -/
def fetch (peer : Peer) (e : Endpoint) : Except Failure String :=
  (post peer e.target).bind Response.source

end ShaderSketch.Service
