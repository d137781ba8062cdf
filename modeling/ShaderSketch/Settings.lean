import ShaderSketch.Files.Tree
import ShaderSketch.Number.Shortest
import ShaderSketch.Text.Natural
import ShaderSketch.Text.Quoted
import ShaderSketch.Toml.Document

/-!
# Settings

A settings file may set an endpoint, a timeout, and the window's title and size. Keys that are not
there keep their defaults, and keys that mean nothing are passed over.

## Main definitions

* `Settings`, `Settings.Window` : the settings
* `Settings.ofTable` : the settings of a table
* `Settings.ofText` : the settings of a document
* `Settings.load` : the settings of a file, which may be missing

## Design notes

Of several values of the wrong type the first in the document is named.
-/

namespace ShaderSketch

/-- Title and size of the window. -/
structure Settings.Window where
  title : String := "text2shader"
  width : UInt32 := 800
  height : UInt32 := 600
  deriving Repr, DecidableEq

/-- What a settings file may set. -/
structure Settings where
  endpoint : Option String := none
  timeout : Option Nat := none
  window : Settings.Window := {}
  deriving Repr, DecidableEq

namespace Settings

/-- What is wrong with a document: it is none, or a value has the wrong type. -/
inductive Problem
  | syntaxError
  | data (text : String)
  deriving Repr, DecidableEq

/-- How a message names a value. -/
def describe : Toml.Value → String
  | .string s => "string " ++ Text.quoted s.toList
  | .integer n => "integer `" ++ toString n ++ "`"
  | .float x => "floating point `" ++ Shortest.render Shortest.pointed x ++ "`"
  | .boolean b => "boolean `" ++ toString b ++ "`"
  | .array _ => "sequence"
  | .datetime | .table _ => "map"

/-- The problem of a value of the wrong type. -/
def wrongType (v : Toml.Value) (expected : String) : Problem :=
  .data ("invalid type: " ++ describe v ++ ", expected " ++ expected)

/-- A text. -/
def readText : Toml.Value → Except Problem String
  | .string s => .ok s
  | v => .error (wrongType v "a string")

/-- A natural number up to a limit, under the name of its type. -/
def readNatural (limit : Nat) (expected : String) : Toml.Value → Except Problem Nat
  | .integer n =>
    if 0 ≤ n ∧ n ≤ limit then .ok n.toNat
    else .error (.data ("invalid value: " ++ describe (.integer n) ++ ", expected " ++ expected))
  | v => .error (wrongType v expected)

/-- A length in pixels. -/
def readLength (v : Toml.Value) : Except Problem UInt32 :=
  (readNatural Natural.limit32 "u32" v).map UInt32.ofNat

/-- The window with one key of a table taken in. -/
def Window.set (w : Window) (key : String) (v : Toml.Value) : Except Problem Window :=
  if key = "title" then (readText v).map fun title => { w with title }
  else if key = "width" then (readLength v).map fun width => { w with width }
  else if key = "height" then (readLength v).map fun height => { w with height }
  else .ok w

/-- The window of a table. -/
def Window.ofTable (t : Toml.Table) : Except Problem Window :=
  t.foldlM (fun w (key, v) => w.set key v) {}

/-- The window of a list of title, width and height; what is missing has its default, and what is
beyond is passed over. -/
def Window.ofArray (elements : List Toml.Value) : Except Problem Window :=
  (["title", "width", "height"].zip elements).foldlM (fun w (key, v) => w.set key v) {}

/-- The window of a value. -/
def Window.ofValue : Toml.Value → Except Problem Window
  | .table t => Window.ofTable t
  | .array elements => Window.ofArray elements
  | .datetime => .ok {}
  | v => .error (wrongType v "struct WindowSettings")

/-- The settings with one key of a table taken in. -/
def set (s : Settings) (key : String) (v : Toml.Value) : Except Problem Settings :=
  if key = "endpoint" then (readText v).map fun endpoint => { s with endpoint := some endpoint }
  else if key = "timeout_secs" then
    (readNatural Natural.limit64 "u64" v).map fun timeout => { s with timeout := some timeout }
  else if key = "window" then (Window.ofValue v).map fun window => { s with window }
  else .ok s

/-- The settings of a table. -/
def ofTable (t : Toml.Table) : Except Problem Settings :=
  t.foldlM (fun s (key, v) => s.set key v) {}

/-- The settings of a document. -/
def ofText (text : String) : Except Problem Settings :=
  match Toml.parse text.toList with
  | some t => ofTable t
  | none => .error .syntaxError

/-- Why there are no settings: the file cannot be read, or is not as it should be. -/
inductive LoadError
  | unreadable (path : Path) (e : FileError)
  | malformed (path : Path) (problem : Problem)
  deriving Repr, DecidableEq

/-- The settings of a file; a file that is missing leaves all defaults. -/
def load (files : Tree) (path : Path) : Except LoadError Settings :=
  if files.isThere path then
    match files.readText path with
    | .error e => .error (.unreadable path e)
    | .ok text => (ofText text).mapError (.malformed path)
  else .ok {}

end Settings

end ShaderSketch
