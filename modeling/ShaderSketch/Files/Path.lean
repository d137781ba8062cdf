import ShaderSketch.Text.Lines
import ShaderSketch.Text.Utf8

/-!
# Paths

A path is a string of bytes whose segments are separated by slashes. What it is shown as need not
be what it is, since bytes that are no text are replaced.

## Main definitions

* `Path` : a path
* `Path.shown` : the text that stands for a path in messages
* `Path.join` : a path below another
* `Path.segments` : what stands between the slashes
-/

namespace ShaderSketch

/-- A path. -/
structure Path where
  bytes : List UInt8
  deriving Repr, DecidableEq

namespace Path

/-- The byte between segments. -/
def slash : UInt8 := 0x2f

/-- The path that a text spells. -/
def ofText (s : String) : Path := ⟨Utf8.encode s.toList⟩

/-- The text that stands for a path in messages. -/
def shown (p : Path) : String := String.ofList (Utf8.decodeLossy p.bytes)

/-- Whether a path starts at the root. -/
def isAbsolute (p : Path) : Bool := p.bytes.head? = some slash

/-- A path below another; an absolute path is below none and stays as it is. -/
def join (p q : Path) : Path :=
  if q.isAbsolute ∨ p.bytes.isEmpty then q
  else if p.bytes.getLast? = some slash then ⟨p.bytes ++ q.bytes⟩
  else ⟨p.bytes ++ slash :: q.bytes⟩

/-- The segments of a path. -/
def segments (p : Path) : List (List UInt8) := Text.splitOn slash p.bytes

end Path

end ShaderSketch
