import ShaderSketch.Text.Blank
import ShaderSketch.Url.Address

/-!
# Where the shader service is

## Main definitions

* `Service.Endpoint` : where the service is, where requests go, and how long they may take
* `Service.Endpoint.Error` : why a text names no endpoint
* `Service.Endpoint.ofText` : the endpoint that a text names
* `Service.Endpoint.ofVariable` : the endpoint for the value of an environment variable

## Design notes

Requests go to a fixed path below the endpoint. It is appended to the text of the endpoint, less
its trailing slashes, and the result is read again; an endpoint with a query or a fragment therefore
has the path at the end of that.
-/

namespace ShaderSketch.Service

/-- Where the service is, where requests go, and how many seconds they may take. -/
structure Endpoint where
  base : Url
  target : Url
  timeout : Nat
  deriving Repr, DecidableEq

namespace Endpoint

/-- The endpoint when no other is named. -/
def defaultText : String := "http://localhost:4000"

/-- The environment variable that names an endpoint. -/
def variableName : String := "TEXT2SHADER_API"

/-- The path of requests below the endpoint. -/
def route : String := "api/generate-shader"

/-- How many seconds a request may take when nothing else is said. -/
def defaultTimeout : Nat := 60

/-- Why a text names no endpoint. -/
inductive Error
  | empty
  | invalid (text reason : String)
  deriving Repr, DecidableEq

/-- The wording of an error. -/
def Error.message : Error → String
  | .empty => "shader service endpoint must not be empty"
  | .invalid text reason => "invalid shader service endpoint '" ++ text ++ "': " ++ reason

/-- A web address of a scheme that the service is reached by. -/
def readAddress (text : List Char) : Except String Url :=
  match Url.read text with
  | .error e => .error e.message
  | .ok reading =>
    let scheme := match reading with | .address url => url.scheme | .other scheme => scheme
    let refused := "unsupported scheme '" ++ String.ofList scheme ++ "', expected http or https"
    match reading with
    | .address url =>
      if scheme = "http".toList ∨ scheme = "https".toList then .ok url else .error refused
    | .other _ => .error refused

/-- The text of an address without its trailing slashes, with the path of requests behind it. -/
def appendRoute (url : Url) : List Char :=
  (url.render.reverse.dropWhile (· = '/')).reverse ++ '/' :: route.toList

/-- The endpoint that a text names, with the default timeout. -/
def ofText (text : String) : Except Error Endpoint :=
  let raw := Text.trim text.toList
  if raw.isEmpty then .error .empty
  else
    let invalid (reason : String) : Error := .invalid (String.ofList raw) reason
    match readAddress raw with
    | .error reason => .error (invalid reason)
    | .ok base =>
      match readAddress (appendRoute base) with
      | .error reason => .error (invalid reason)
      | .ok target => .ok { base, target, timeout := defaultTimeout }

/-- The endpoint for the value of an environment variable; unset and blank stand for the default. -/
def ofVariable (value : Option String) : Except Error Endpoint :=
  match value with
  | some text => ofText (if Text.blank text then defaultText else text)
  | none => ofText defaultText

/-- The same endpoint with another timeout. -/
def withTimeout (e : Endpoint) (seconds : Nat) : Endpoint := { e with timeout := seconds }

end Endpoint

end ShaderSketch.Service
