import ShaderSketch.Text.Blank
import ShaderSketch.Text.Lines

/-!
# Search

## Main definitions

* `Text.contains` : whether one text occurs in another
* `Text.afterStart?` : what follows a text that another starts with
* `Text.words` : the runs of characters that are not blank
* `Text.lastWord?` : the last of them
-/

namespace ShaderSketch.Text

/-- Whether a text occurs in another. -/
def contains (needle : List Char) : List Char → Bool
  | [] => needle.isEmpty
  | c :: s => needle.isPrefixOf (c :: s) || contains needle s

/-- What follows a text that another starts with. -/
def afterStart? : (start s : List Char) → Option (List Char)
  | [], s => some s
  | _ :: _, [] => none
  | a :: start, c :: s => if a = c then afterStart? start s else none

/-- The runs of characters that are not blank. -/
def words (s : List Char) : List (List Char) :=
  (splitOn ' ' (s.map fun c => if isBlank c then ' ' else c)).filter (· ≠ [])

/-- The last run of characters that are not blank. -/
def lastWord? (s : List Char) : Option (List Char) :=
  match (s.reverse.dropWhile isBlank).takeWhile (!isBlank ·) with
  | [] => none
  | word => some word.reverse

end ShaderSketch.Text
