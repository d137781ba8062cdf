import ShaderSketch.Text.Utf8

/-!
# Refused documents

Why a JSON text is refused, and at which line and column.

## Main definitions

* `Json.Cause` : what is wrong
* `Json.Fault` : what is wrong, and how many bytes of the text lie after the place
* `Json.Position.ofOffset` : the line and column of a byte offset
* `Json.Fault.message` : the wording

## Design notes

Readers see only the rest of the text, so a fault measures its place from the end. Lines count
from 1; a column is the number of bytes read since the last line feed.
-/

namespace ShaderSketch.Json

/-- What is wrong with a document. -/
inductive Cause
  | endOfList | endOfObject | endOfString | endOfValue
  | expectedColon | expectedListEnd | expectedObjectEnd | expectedWord | expectedValue
  | keyNotString | trailingComma | trailingCharacters
  | controlCharacter | invalidEscape | loneSurrogate | brokenEscape
  | invalidNumber | numberOutOfRange
  | mismatch (found wanted : String)
  | tooShort (wanted : String)
  | missingField (name : String)
  | repeatedField (name : String)
  deriving Repr, DecidableEq

/-- The wording of a cause. -/
def Cause.message : Cause → String
  | .endOfList => "EOF while parsing a list"
  | .endOfObject => "EOF while parsing an object"
  | .endOfString => "EOF while parsing a string"
  | .endOfValue => "EOF while parsing a value"
  | .expectedColon => "expected `:`"
  | .expectedListEnd => "expected `,` or `]`"
  | .expectedObjectEnd => "expected `,` or `\x7d`"
  | .expectedWord => "expected ident"
  | .expectedValue => "expected value"
  | .keyNotString => "key must be a string"
  | .trailingComma => "trailing comma"
  | .trailingCharacters => "trailing characters"
  | .controlCharacter => "control character (\\u0000-\\u001F) found while parsing a string"
  | .invalidEscape => "invalid escape"
  | .loneSurrogate => "lone leading surrogate in hex escape"
  | .brokenEscape => "unexpected end of hex escape"
  | .invalidNumber => "invalid number"
  | .numberOutOfRange => "number out of range"
  | .mismatch found wanted => "invalid type: " ++ found ++ ", expected " ++ wanted
  | .tooShort wanted => "invalid length 0, expected " ++ wanted
  | .missingField name => "missing field `" ++ name ++ "`"
  | .repeatedField name => "duplicate field `" ++ name ++ "`"

/-- What is wrong, and how many bytes of the text lie after the place where it shows. -/
structure Fault where
  cause : Cause
  left : Nat
  deriving Repr, DecidableEq

namespace Fault

/-- A fault in front of the rest of the text. -/
def here (cause : Cause) (rest : List Char) : Fault := ⟨cause, Utf8.size rest⟩

/-- A fault one byte into the rest of the text, or at its end when nothing is left. -/
def next (cause : Cause) (rest : List Char) : Fault := ⟨cause, Utf8.size rest - 1⟩

end Fault

/-- A place in a text. -/
structure Position where
  line : Nat
  column : Nat
  deriving Repr, DecidableEq

/-- The place that is reached after some bytes of a text, counted from a given place. -/
def Position.advance (p : Position) : (offset : Nat) → List Char → Position
  | _, [] => p
  | offset, c :: s =>
    if offset = 0 then p
    else if offset < c.utf8Size then ⟨p.line, p.column + offset⟩
    else if c = '\n' then Position.advance ⟨p.line + 1, 0⟩ (offset - c.utf8Size) s
    else Position.advance ⟨p.line, p.column + c.utf8Size⟩ (offset - c.utf8Size) s

/-- The line and column of a byte offset. -/
def Position.ofOffset (text : List Char) (offset : Nat) : Position :=
  Position.advance ⟨1, 0⟩ offset text

/-- The place of a fault in its text. -/
def Fault.position (f : Fault) (text : List Char) : Position :=
  Position.ofOffset text (Utf8.size text - f.left)

/-- The wording of a fault with its place. -/
def Fault.message (f : Fault) (text : List Char) : String :=
  let p := f.position text
  f.cause.message ++ " at line " ++ toString p.line ++ " column " ++ toString p.column

end ShaderSketch.Json
