import ShaderSketch.CommandLine.Error
import ShaderSketch.Environment
import ShaderSketch.Service.Endpoint

/-!
# Reading the command line

Words are taken in from left to right, and the first fault decides. An option has its value attached
by an equals sign or in the next word, unless that word looks like an option itself; what stands by
itself is the prompt. After `--` no word looks like an option.

## Main definitions

* `CommandLine.Word` : what a word looks like
* `CommandLine.Draft` : what was taken in so far
* `CommandLine.parse` : the arguments of a command line

## Design notes

A value from a word of its own is looked at when the next word asks for it, or at the end. A word
that is refused outright is therefore refused before a faulty value in front of it.
-/

namespace ShaderSketch.CommandLine

/-- What a word looks like: the mark that ends the options, an option with or without an attached
value, short flags, or a value. -/
inductive Word
  | escape
  | long (name : List UInt8) (value : Option (List UInt8))
  | short (letters : List UInt8)
  | plain (text : List UInt8)
  deriving Repr, DecidableEq

/-- What a word looks like. -/
def Word.of (word : List UInt8) : Word :=
  match word with
  | [0x2d, 0x2d] => .escape
  | 0x2d :: 0x2d :: rest =>
    let name := rest.takeWhile (· ≠ 0x3d)
    match rest.dropWhile (· ≠ 0x3d) with
    | [] => .long name none
    | _ :: value => .long name (some value)
  | 0x2d :: b :: rest => .short (b :: rest)
  | word => .plain word

/-- The text that stands for bytes in messages. -/
def shownBytes (bytes : List UInt8) : String := String.ofList (Utf8.decodeLossy bytes)

/-- A value that has to be text. -/
def textValue (bytes : List UInt8) : Except Stop String :=
  match Utf8.decode? bytes with
  | some s => .ok (String.ofList s)
  | none => .error .invalidUtf8

/-- A value that has to be a path. -/
def pathValue (p : Parameter) (bytes : List UInt8) : Except Stop Path :=
  if bytes = [] then .error (.missingValue p) else .ok ⟨bytes⟩

/-- The arguments with the value of one parameter taken in. -/
def assign (a : Arguments) (p : Parameter) (bytes : List UInt8) : Except Stop Arguments := do
  match p with
  | .prompt => return { a with prompt := some (← textValue bytes) }
  | .endpoint => return { a with endpoint := some (← textValue bytes) }
  | .source => return { a with source := some (← pathValue p bytes) }
  | .config => return { a with config := some (← pathValue p bytes) }
  | .timeout =>
    let s ← textValue bytes
    match Natural.read Natural.limit64 s.toList with
    | .ok seconds => return { a with timeout := some seconds }
    | .error e => throw (.invalidValue p s e.message)
  | .size =>
    let s ← textValue bytes
    match Size.read s with
    | .ok size => return { a with size := some size }
    | .error e => throw (.invalidValue p s e.message)
  | .exportTo =>
    let s ← textValue bytes
    match ExportPath.read s with
    | .ok path => return { a with exportTo := some path }
    | .error e => throw (.invalidValue p s e.message)

/-- What was taken in so far: the arguments, the parameters they came from in order, the parameter
whose value was not looked at yet or did not come yet, and whether the options are over. -/
structure Draft where
  arguments : Arguments := {}
  given : List Parameter := []
  pending : Option (Parameter × Option (List UInt8)) := none
  escaped : Bool := false

namespace Draft

/-- Takes in the value of a parameter. -/
def take (d : Draft) (p : Parameter) (bytes : List UInt8) : Except Stop Draft := do
  if d.given.contains p then throw (.usedTwice p)
  return { d with arguments := ← assign d.arguments p bytes, given := d.given ++ [p] }

/-- Takes in the value that was not looked at yet. -/
def settle (d : Draft) : Except Stop Draft :=
  match d.pending with
  | none => .ok d
  | some (p, none) => .error (.missingValue p)
  | some (p, some bytes) => { d with pending := none }.take p bytes

/-- Whether there is a prompt already. -/
def hasPrompt (d : Draft) : Bool :=
  d.given.contains .prompt || (d.pending.map (·.1)) = some .prompt

/-- Takes in a word that stands by itself. -/
def alone (d : Draft) (word : List UInt8) : Except Stop Draft :=
  if d.hasPrompt then .error (.unknownArgument (shownBytes word))
  else do
    let d ← d.settle
    return { d with pending := some (.prompt, some word) }

/-- Answers a flag. -/
def answer (d : Draft) (flag : Flag) : Except Stop Draft := do
  let _ ← d.settle
  throw (.answered flag)

/-- The flag of a name. -/
def flag? (name : String) : Option Flag := [Flag.help, .version].find? (·.name = name)

/-- Takes in an option. -/
def long (d : Draft) (name : List UInt8) (value : Option (List UInt8)) : Except Stop Draft :=
  let unknown : Except Stop Draft := .error (.unknownArgument ("--" ++ shownBytes name))
  match Utf8.decode? name with
  | none => unknown
  | some text =>
    match Parameter.ofName? (String.ofList text), flag? (String.ofList text), value with
    | some p, _, some bytes => do (← d.settle).take p bytes
    | some p, _, none => do return { ← d.settle with pending := some (p, none) }
    | none, some flag, some bytes => .error (.unexpectedValue flag (shownBytes bytes))
    | none, some flag, none => d.answer flag
    | none, none, _ => unknown

/-- Takes in short flags, of which the first decides. -/
def short (d : Draft) (letters : List UInt8) : Except Stop Draft :=
  match letters with
  | [] => .ok d
  | b :: rest =>
    match (Utf8.next b rest).1 with
    | some 'h' => d.answer .help
    | some 'V' => d.answer .version
    | some c => .error (.unknownArgument (String.ofList ['-', c]))
    | none => .error (.unknownArgument ("-" ++ shownBytes letters))

/-- Takes in a word. -/
def word (d : Draft) (w : List UInt8) : Except Stop Draft :=
  if d.escaped then d.alone w
  else
    match Word.of w with
    | .escape => .ok { d with escaped := true }
    | .long name value => d.long name value
    | .short letters => d.short letters
    | .plain text =>
      match d.pending with
      | some (p, none) => .ok { d with pending := some (p, some text) }
      | _ => d.alone text

/-- Takes the endpoint from the environment where the words have none. -/
def fromEnvironment (d : Draft) (e : Environment) : Except Stop Draft :=
  match e.get? Service.Endpoint.variableName with
  | some bytes => if d.given.contains .endpoint then .ok d else d.take .endpoint bytes
  | none => .ok d

/-- Refuses a prompt beside a source. -/
def checkConflict (d : Draft) : Except Stop Unit :=
  match d.given.filter fun p => p = .prompt || p = .source with
  | first :: second :: _ => .error (.conflict first second)
  | _ => .ok ()

end Draft

/-- The arguments of a command line. -/
def parse (e : Environment) (words : List (List UInt8)) : Except Stop Arguments := do
  let d ← words.foldlM Draft.word {}
  let d ← d.settle
  let d ← d.fromEnvironment e
  d.checkConflict
  return d.arguments

/-- The value that the endpoint has in the environment, as the help text shows it. -/
def shownEndpoint (e : Environment) : String :=
  shownBytes ((e.get? Service.Endpoint.variableName).getD [])

end ShaderSketch.CommandLine
