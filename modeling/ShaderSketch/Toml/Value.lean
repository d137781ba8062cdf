import ShaderSketch.Number.Binary

/-!
# TOML values

## Main definitions

* `Toml.Value` : a value; the entries of a table stand in the order of the document
* `Toml.Table` : the entries of a table
-/

namespace ShaderSketch.Toml

/-- A value. Of dates and times it is only known that they are some. -/
inductive Value
  | string (s : String)
  | integer (n : Int)
  | float (x : Binary)
  | boolean (b : Bool)
  | datetime
  | array (elements : List Value)
  | table (entries : List (String × Value))
  deriving Inhabited

/-- The entries of a table, in the order of the document. -/
abbrev Table := List (String × Value)

end ShaderSketch.Toml
