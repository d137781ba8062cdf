/-!
# Lines

A text cut at its line feeds. A carriage return before a line feed belongs to the line end, and a
line feed at the very end opens no further line.

## Main definitions

* `Text.splitOn` : the pieces of a list between separators, with the last one even when it is empty
* `Text.lines` : the lines of a text
* `Text.cutAt` : a text before and after the first occurrence of a character
-/

namespace ShaderSketch.Text

/-- The pieces of a list between separators; there is one more than there are separators. -/
def splitOn {α : Type} [DecidableEq α] (separator : α) : List α → List (List α)
  | [] => [[]]
  | a :: s =>
    if a = separator then [] :: splitOn separator s
    else
      match splitOn separator s with
      | [] => [[a]]
      | l :: ls => (a :: l) :: ls

/-- The pieces of a text between line feeds. -/
def splitLines (s : List Char) : List (List Char) := splitOn '\n' s

/-- A piece without the carriage return that ends it. -/
def dropReturn (l : List Char) : List Char :=
  if l.getLast? = some '\r' then l.dropLast else l

/-- The lines of a text: every piece that a line feed ends loses a carriage return at its end, and
a last piece counts when it is not empty. -/
def lines (s : List Char) : List (List Char) :=
  let pieces := splitLines s
  let ended := pieces.dropLast.map dropReturn
  match pieces.getLast? with
  | some [] => ended
  | some last => ended ++ [last]
  | none => ended

/-- A text before and after the first character that a test picks out. -/
def cutAt (p : Char → Bool) : List Char → Option (List Char × List Char)
  | [] => none
  | c :: s => if p c then some ([], s) else (cutAt p s).map fun (a, b) => (c :: a, b)

end ShaderSketch.Text
