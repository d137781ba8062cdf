/-!
# White space

The characters that count as blank in prompts, endpoints, sizes and shader sources, and the
operations that drop them at the ends of a text.

## Main definitions

* `Text.isBlank` : the characters with the Unicode property `White_Space`
* `Text.trimStart`, `Text.trimEnd`, `Text.trim` : a text without its blank margins
* `Text.blank` : whether a text has no other character

## Design notes

Operations work on `List Char`, so that a law about them is a law about lists; `String` appears
only where a caller holds one.
-/

namespace ShaderSketch.Text

/-- The characters with the Unicode property `White_Space`. -/
def isBlank (c : Char) : Bool :=
  let n := c.toNat
  (0x09 ≤ n && n ≤ 0x0d) || n == 0x20 || n == 0x85 || n == 0xa0 || n == 0x1680
    || (0x2000 ≤ n && n ≤ 0x200a) || n == 0x2028 || n == 0x2029 || n == 0x202f
    || n == 0x205f || n == 0x3000

/-- The text without its leading blank characters. -/
def trimStart (s : List Char) : List Char := s.dropWhile isBlank

/-- The text without its trailing blank characters. -/
def trimEnd (s : List Char) : List Char := (s.reverse.dropWhile isBlank).reverse

/-- The text without its blank margins. -/
def trim (s : List Char) : List Char := trimEnd (trimStart s)

/-- Whether every character of a text is blank; the empty text is. -/
def blank (s : String) : Bool := s.toList.all isBlank

end ShaderSketch.Text
