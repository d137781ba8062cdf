import ShaderSketch.Text.Search

/-!
# The lexical grammar of TOML

Blanks, line ends, comments, strings and keys. A reader takes what it stands for from the front of a
text, and fails when it is not there.

## Main definitions

* `Toml.Reader` : the type of readers
* `Toml.skipBlanks`, `Toml.skipLines` : blanks within a line, and across lines with their comments
* `Toml.lineEnd` : the rest of a line that has nothing more to say
* `Toml.string`, `Toml.key` : strings and dotted keys
-/

namespace ShaderSketch.Toml

/-- Takes something from the front of a text. -/
abbrev Reader (α : Type) := List Char → Option (α × List Char)

/-- Whether a character is blank within a line. -/
def isSpace (c : Char) : Bool := c = ' ' || c = '\t'

/-- Whether a character may stand in a comment or a string as it is. -/
def isText (c : Char) : Bool := c = '\t' || (0x20 ≤ c.toNat && c.toNat ≠ 0x7f)

/-- The text behind blanks. -/
def skipBlanks (s : List Char) : List Char := s.dropWhile isSpace

/-- The text behind a line end. -/
def newline? : List Char → Option (List Char)
  | '\n' :: s => some s
  | '\r' :: '\n' :: s => some s
  | _ => none

/-- The text behind a comment, where there is one; its line end stays. -/
def skipComment : List Char → List Char
  | '#' :: s => s.dropWhile isText
  | s => s

/-- The text behind blanks, a comment, and a line end or the end of the document. -/
def lineEnd (s : List Char) : Option (List Char) :=
  match skipComment (skipBlanks s) with
  | [] => some []
  | s => newline? s

/-- The text behind blanks, comments and line ends, given a bound on the number of lines. -/
def skipLinesUpTo : Nat → List Char → List Char
  | 0, s => s
  | n + 1, s =>
    let s := skipComment (skipBlanks s)
    match newline? s with
    | some s => skipLinesUpTo n s
    | none => s

/-- The text behind blanks, comments and line ends. -/
def skipLines (s : List Char) : List Char := skipLinesUpTo (s.length + 1) s

/-- The value of a hexadecimal digit. -/
def hexValue? (c : Char) : Option Nat :=
  if '0' ≤ c ∧ c ≤ '9' then some (c.toNat - 0x30)
  else if 'a' ≤ c ∧ c ≤ 'f' then some (c.toNat - 0x57)
  else if 'A' ≤ c ∧ c ≤ 'F' then some (c.toNat - 0x37)
  else none

/-- The character whose code point the next `n` hexadecimal digits spell. -/
def codePoint (n : Nat) : Reader Char := fun s => do
  guard (n ≤ s.length)
  let digits ← (s.take n).mapM hexValue?
  let value := digits.foldl (fun v d => 16 * v + d) 0
  guard (value.isValidChar)
  return (Char.ofNat value, s.drop n)

/-- The character behind a backslash. -/
def escaped : Reader Char
  | 'b' :: s => some ('\x08', s)
  | 't' :: s => some ('\t', s)
  | 'n' :: s => some ('\n', s)
  | 'f' :: s => some ('\x0c', s)
  | 'r' :: s => some ('\r', s)
  | '"' :: s => some ('"', s)
  | '\\' :: s => some ('\\', s)
  | 'u' :: s => codePoint 4 s
  | 'U' :: s => codePoint 8 s
  | _ => none

/-- The rest of a string on one line between double quotes, given a bound on its length. -/
def basicRest : Nat → Reader (List Char)
  | 0, _ => none
  | n + 1, s =>
    match s with
    | '"' :: s => some ([], s)
    | '\\' :: s => do
      let (c, s) ← escaped s
      let (cs, s) ← basicRest n s
      return (c :: cs, s)
    | c :: s => do
      guard (isText c)
      let (cs, s) ← basicRest n s
      return (c :: cs, s)
    | [] => none

/-- The rest of a string on one line between single quotes. -/
def literalRest : Reader (List Char)
  | [] => none
  | '\'' :: s => some ([], s)
  | c :: s => do
    guard (isText c)
    let (cs, s) ← literalRest s
    return (c :: cs, s)

/-- The quotes at the end of a string of several lines: of three to five, the last three end it. -/
def closing (quote : Char) : Reader (List Char) := fun s =>
  let run := s.takeWhile (· = quote)
  if run.length < 3 then none
  else
    let kept := min 2 (run.length - 3)
    some (List.replicate kept quote, s.drop (kept + 3))

/-- The text behind the blanks and line ends that a backslash at the end of a line takes away. -/
def skipFold (s : List Char) : Option (List Char) := do
  let s ← newline? (skipBlanks s)
  return skipAll (s.length + 1) s
where
  /-- The text behind blanks and line ends. -/
  skipAll : Nat → List Char → List Char
    | 0, s => s
    | n + 1, s =>
      match newline? (skipBlanks s) with
      | some s => skipAll n s
      | none => skipBlanks s

/-- The rest of a string of several lines between quotes of a kind, given a bound on its length;
escapes count between double quotes only. -/
def linesRest (quote : Char) : Nat → Reader (List Char)
  | 0, _ => none
  | n + 1, s =>
    match closing quote s with
    | some result => some result
    | none =>
      match s with
      | [] => none
      | c :: rest =>
        if c = '\\' ∧ quote = '"' then
          match skipFold rest with
          | some s => linesRest quote n s
          | none => do
            let (c, s) ← escaped rest
            let (cs, s) ← linesRest quote n s
            return (c :: cs, s)
        else
          match newline? s with
          | some s => do
            let (cs, s) ← linesRest quote n s
            return ('\n' :: cs, s)
          | none => do
            guard (isText c)
            let (cs, s) ← linesRest quote n rest
            return (c :: cs, s)

/-- A string of several lines without the line end that it may start with. -/
def linesString (quote : Char) : Reader (List Char) := fun s =>
  let s := (newline? s).getD s
  linesRest quote (s.length + 1) s

/-- A string on one line. -/
def lineString : Reader (List Char)
  | '"' :: s => basicRest (s.length + 1) s
  | '\'' :: s => literalRest s
  | _ => none

/-- A string. -/
def string : Reader (List Char)
  | '"' :: '"' :: '"' :: s => linesString '"' s
  | '\'' :: '\'' :: '\'' :: s => linesString '\'' s
  | s => lineString s

/-- Whether a character may stand in a key without quotes. -/
def isBare (c : Char) : Bool := c.isAlphanum || c = '_' || c = '-'

/-- One part of a key. -/
def keyPart : Reader String := fun s =>
  match s.takeWhile isBare with
  | [] => (lineString s).map fun (k, s) => (String.ofList k, s)
  | part => some (String.ofList part, s.dropWhile isBare)

/-- The parts of a dotted key, given a bound on their number. -/
def keyUpTo : Nat → Reader (List String)
  | 0, _ => none
  | n + 1, s => do
    let (part, s) ← keyPart (skipBlanks s)
    match skipBlanks s with
    | '.' :: s =>
      let (parts, s) ← keyUpTo n s
      return (part :: parts, s)
    | s => return ([part], s)

/-- How deep values, and the parts of a key, may be nested. -/
def depthLimit : Nat := 80

/-- A dotted key, with the blanks around its parts. -/
def key : Reader (List String) := keyUpTo (depthLimit - 1)

end ShaderSketch.Toml
