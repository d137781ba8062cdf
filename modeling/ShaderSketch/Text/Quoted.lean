import ShaderSketch.Unicode.Printable

/-!
# Quoted text

A text between double quotes, as messages show the strings they refuse: what would not show, or
would join the character before it, is written by its code point.

## Main definitions

* `Text.quoteChar` : one character inside the quotes
* `Text.quoted` : a text with its quotes
-/

namespace ShaderSketch.Text

/-- The hexadecimal digits of a code point. -/
def hexDigits (n : Nat) : List Char := Nat.toDigits 16 n

/-- A character by its code point. -/
def codePoint (c : Char) : List Char :=
  '\\' :: 'u' :: '\x7b' :: (hexDigits c.toNat ++ ['\x7d'])

/-- A character inside the quotes. -/
def quoteChar (c : Char) : List Char :=
  if c = '\x00' then ['\\', '0']
  else if c = '\t' then ['\\', 't']
  else if c = '\r' then ['\\', 'r']
  else if c = '\n' then ['\\', 'n']
  else if c = '\\' then ['\\', '\\']
  else if c = '"' then ['\\', '"']
  else if c.toNat < 0x7f ∧ 0x20 ≤ c.toNat then [c]
  else if Unicode.extendsGrapheme c ∨ !Unicode.isPrintable c then codePoint c
  else [c]

/-- A text between double quotes. -/
def quoted (s : List Char) : String :=
  String.ofList ('"' :: (s.flatMap quoteChar ++ ['"']))

end ShaderSketch.Text
