/-!
# Writing JSON text

## Main definitions

* `Json.quoteChar`, `Json.quote` : a character and a text in a JSON string
* `Json.object`, `Json.singleton` : an object with one member, and a list with one element
-/

namespace ShaderSketch.Json

/-- A hexadecimal digit in lower case. -/
def hexDigit (n : Nat) : Char := Char.ofNat (if n < 10 then 0x30 + n else 0x61 + (n - 10))

/-- A character in a JSON string. -/
def quoteChar (c : Char) : List Char :=
  if c = '"' then ['\\', '"']
  else if c = '\\' then ['\\', '\\']
  else if c = '\x08' then ['\\', 'b']
  else if c = '\x0c' then ['\\', 'f']
  else if c = '\n' then ['\\', 'n']
  else if c = '\r' then ['\\', 'r']
  else if c = '\t' then ['\\', 't']
  else if c.toNat < 0x20 then
    ['\\', 'u', '0', '0', hexDigit (c.toNat / 16), hexDigit (c.toNat % 16)]
  else [c]

/-- A text as a JSON string. -/
def quote (s : List Char) : List Char := '"' :: (s.flatMap quoteChar ++ ['"'])

/-- An object with one member, given the text of its value. -/
def object (key value : List Char) : List Char :=
  '\x7b' :: (quote key ++ ':' :: (value ++ ['\x7d']))

/-- A list of one element, given its text. -/
def singleton (value : List Char) : List Char := '[' :: (value ++ [']'])

end ShaderSketch.Json
