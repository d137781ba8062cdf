import ShaderSketch.Json.Decode
import ShaderSketch.Json.Writer
import ShaderSketch.Service.Failure
import ShaderSketch.Text.Blank

/-!
# Bodies of requests and responses

A request names a prompt. A response lists blocks of shader code, of which the first is used.

## Main definitions

* `Service.Body.ofPrompt`, `Service.Body.prompt` : the body of a request, and the prompt of a body
* `Service.Body.ofSource` : the body of a response with one block
* `Service.Body.blocks` : the blocks of a body
* `Service.Body.firstSource?` : the block that is used
* `Service.Body.source` : the source of a body
-/

namespace ShaderSketch.Service.Body

/-- The body of a request. -/
def ofPrompt (prompt : String) : String :=
  String.ofList (Json.object "prompt".toList (Json.quote prompt.toList))

/-- The reader of a request. -/
def request : Json.Reader String := Json.record "struct GenerateRequest" "prompt" Json.text

/-- The prompt of a body, or what is wrong with it. -/
def prompt (body : String) : Except String String :=
  (Json.decode request body.toList).mapError (·.message body.toList)

/-- The reader of a block of shader code. -/
def block : Json.Reader String := Json.record "struct ShaderCode" "text" Json.text

/-- The reader of a response. -/
def response : Json.Reader (List String) :=
  Json.record "struct GenerateResponse" "shader_code" (Json.elements block)

/-- The body of a response with one block. -/
def ofSource (source : String) : String :=
  String.ofList <|
    Json.object "shader_code".toList
      (Json.singleton (Json.object "text".toList (Json.quote source.toList)))

/-- The blocks of a body, or what is wrong with it. -/
def blocks (body : String) : Except Json.Fault (List String) := Json.decode response body.toList

/-- The block that is used: the first, unless it is blank. -/
def firstSource? (blocks : List String) : Option String :=
  blocks.head?.filter fun source => !Text.blank source

/-- The source of a body. -/
def source (body : String) : Except Failure String :=
  match blocks body with
  | .error f => .error (.unreadable (f.message body.toList))
  | .ok blocks =>
    match firstSource? blocks with
    | some source => .ok source
    | none => .error .noSource

end ShaderSketch.Service.Body
