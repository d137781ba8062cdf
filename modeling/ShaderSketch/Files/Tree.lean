import ShaderSketch.Canvas.Picture
import ShaderSketch.Files.Path

/-!
# File trees

Directories and files by their names, with a working directory that relative paths start from.

## Main definitions

* `Tree` : directories and files
* `Tree.workingAt`, `Tree.putDirectory`, `Tree.putFile` : a tree to start from
* `Tree.isThere`, `Tree.read`, `Tree.readText` : whether something is at a path, its bytes, its text
* `Tree.savePicture`, `Tree.picture?` : a picture into a file, and out of it
* `FileError` : why a file cannot be read or written
-/

namespace ShaderSketch

/-- Why a file cannot be read or written. -/
inductive FileError
  | notFound
  | notDirectory
  | isDirectory
  | nameTooLong
  | zeroByte
  | notText
  deriving Repr, DecidableEq

/-- The wording of an error. -/
def FileError.message : FileError → String
  | .notFound => "No such file or directory (os error 2)"
  | .notDirectory => "Not a directory (os error 20)"
  | .isDirectory => "Is a directory (os error 21)"
  | .nameTooLong => "File name too long (os error 36)"
  | .zeroByte => "file name contained an unexpected NUL byte"
  | .notText => "stream did not contain valid UTF-8"

/-- What a file holds: bytes, or an encoded picture. -/
inductive Content
  | bytes (data : List UInt8)
  | picture (p : Picture)

/-- What a name stands for. -/
inductive Entry
  | directory
  | file (content : Content)

/-- A place in a tree: the names that lead to it from the root. -/
abbrev Place := List (List UInt8)

/-- Directories and files below a root that is always there, and the working directory. -/
structure Tree where
  entries : List (Place × Entry) := []
  working : Place := []

namespace Tree

/-- What is at a place. -/
def entry? (t : Tree) (place : Place) : Option Entry :=
  if place = [] then some .directory else t.entries.lookup place

/-- The tree with an entry put at a place. -/
def put (t : Tree) (place : Place) (e : Entry) : Tree :=
  { t with entries := (place, e) :: t.entries.filter (·.1 ≠ place) }

/-- The tree with a directory at a place and on the way to it. -/
def putDirectory (t : Tree) (place : Place) : Tree :=
  (List.range (place.length + 1)).foldl (fun t n =>
    if (t.entry? (place.take n)).isNone then t.put (place.take n) .directory else t) t

/-- Where a path starts. -/
def start (t : Tree) (p : Path) : Place := if p.isAbsolute then [] else t.working

/-- The place that the segments of a path name, whatever is on the way. -/
def namedPlace (t : Tree) (p : Path) : Place :=
  p.segments.foldl (fun here s =>
    if s = [] ∨ s = [0x2e] then here else if s = [0x2e, 0x2e] then here.dropLast else here ++ [s])
    (t.start p)

/-- The tree with a file at a path, and the directories on the way to it. -/
def putFile (t : Tree) (p : Path) (data : List UInt8) : Tree :=
  let place := t.namedPlace p
  (t.putDirectory place.dropLast).put place (.file (.bytes data))

/-- An empty tree that is worked in at a place. -/
def workingAt (place : Place) : Tree := { working := place : Tree }.putDirectory place

/-- The longest name that a file can have, and the longest path. -/
def longestName : Nat := 255

@[inherit_doc longestName] def longestPath : Nat := 4095

/-- The place that segments lead to; all but the last have to be directories on the way. -/
def follow (t : Tree) (here : Place) : List (List UInt8) → Except FileError Place
  | [] => .ok here
  | s :: rest =>
    match t.entry? here with
    | none => .error .notFound
    | some (.file _) => .error .notDirectory
    | some .directory =>
      if s = [] ∨ s = [0x2e] then t.follow here rest
      else if s = [0x2e, 0x2e] then t.follow here.dropLast rest
      else if longestName < s.length then .error .nameTooLong
      else t.follow (here ++ [s]) rest

/-- Refuses the paths that can name nothing. -/
def checkPath (p : Path) : Except FileError Unit :=
  if p.bytes.contains 0 then .error .zeroByte
  else if p.bytes = [] then .error .notFound
  else if longestPath < p.bytes.length then .error .nameTooLong
  else .ok ()

/-- The place that a path leads to. -/
def locate (t : Tree) (p : Path) : Except FileError Place := do
  checkPath p
  t.follow (t.start p) p.segments

/-- Whether something is at a path. -/
def isThere (t : Tree) (p : Path) : Bool :=
  match t.locate p with
  | .ok place => (t.entry? place).isSome
  | .error _ => false

/-- What the file at a path holds. -/
def read (t : Tree) (p : Path) : Except FileError Content := do
  match t.entry? (← t.locate p) with
  | none => .error .notFound
  | some .directory => .error .isDirectory
  | some (.file content) => .ok content

/-- The text of the file at a path; an encoded picture is none. -/
def readText (t : Tree) (p : Path) : Except FileError String := do
  match ← t.read p with
  | .bytes data =>
    match Utf8.decode? data with
    | some text => .ok (String.ofList text)
    | none => .error .notText
  | .picture _ => .error .notText

/-- The place that a new file at a path gets. A path that ends in a slash or in a dot segment names
a directory. -/
def newPlace (t : Tree) (p : Path) : Except FileError Place := do
  checkPath p
  let named := (p.segments.reverse.dropWhile (· = [])).reverse
  match named.getLast? with
  | none => .error .isDirectory
  | some last =>
    if last = [0x2e] ∨ last = [0x2e, 0x2e] then
      let _ ← t.follow (t.start p) (named ++ [[]])
      .error .isDirectory
    else
      let place ← t.follow (t.start p) named
      if named.length < p.segments.length ∧ p.segments.getLast? = some [] then .error .isDirectory
      else .ok place

/-- Puts a picture into the file at a path, in place of what was there. -/
def savePicture (t : Tree) (p : Path) (picture : Picture) : Except FileError Tree := do
  let place ← t.newPlace p
  match t.entry? place with
  | some .directory => .error .isDirectory
  | _ => .ok (t.put place (.file (.picture picture)))

/-- The picture in the file at a path. -/
def picture? (t : Tree) (p : Path) : Option Picture :=
  match t.read p with
  | .ok (.picture picture) => some picture
  | _ => none

end Tree

end ShaderSketch
