import ShaderSketch.Text.Blank
import ShaderSketch.Text.Lines
import ShaderSketch.Text.Utf8

/-!
# Prompts from a stream

A stream of bytes is read line by line, and every line that is not blank is a prompt. A line that is
no text ends the reading, and so does the first prompt that nobody takes any more.

## Main definitions

* `Prompts.Reader` : a stream that is being read
* `Prompts.Reader.feed` : reads more bytes
* `Prompts.Reader.finish` : reads the end of the stream

## Design notes

A line that the stream ends in the middle of is a line, but nothing is taken off its end: the
carriage return belongs to the line end, and there is none.
-/

namespace ShaderSketch.Prompts

/-- A stream that is being read: the line that it is in the middle of, whether it is still read, and
how many more prompts will be taken, if there is an end to that. -/
structure Reader where
  held : List UInt8 := []
  reading : Bool := true
  room : Option Nat := none
  deriving Repr, DecidableEq

namespace Reader

/-- The reader after its last line. -/
def stop (r : Reader) : Reader := { r with held := [], reading := false }

/-- Hands out a prompt, if it will be taken. -/
def hand (r : Reader) (prompt : String) : List String × Reader :=
  match r.room with
  | none => ([prompt], r)
  | some 0 => ([], r.stop)
  | some (n + 1) => ([prompt], { r with room := some n })

/-- Reads a line, which is no text or has its line end taken off already. -/
def line (r : Reader) (text : Option (List Char)) : List String × Reader :=
  if r.reading then
    match text with
    | none => ([], r.stop)
    | some text =>
      let prompt := String.ofList text
      if Text.blank prompt then ([], r) else r.hand prompt
  else ([], r)

/-- The text of a line that a line feed ended. -/
def endedLine (bytes : List UInt8) : Option (List Char) :=
  (Utf8.decode? bytes).map Text.dropReturn

/-- Reads lines that a line feed ended. -/
def lines (r : Reader) : List (List UInt8) → List String × Reader
  | [] => ([], r)
  | bytes :: rest =>
    let (first, r) := r.line (endedLine bytes)
    let (more, r) := r.lines rest
    (first ++ more, r)

/-- The byte that ends a line. -/
def lineFeed : UInt8 := 0x0a

/-- Reads more bytes, and hands out the prompts of the lines that they end. -/
def feed (r : Reader) (bytes : List UInt8) : List String × Reader :=
  let pieces := Text.splitOn lineFeed (r.held ++ bytes)
  let (prompts, r) := r.lines pieces.dropLast
  (prompts, if r.reading then { r with held := pieces.getLast?.getD [] } else r)

/-- Reads the end of the stream, and hands out the prompt of the line that it ends. -/
def finish (r : Reader) : List String × Reader :=
  if r.held = [] then ([], r.stop)
  else
    let (prompts, r) := r.line (Utf8.decode? r.held)
    (prompts, r.stop)

end Reader

end ShaderSketch.Prompts
