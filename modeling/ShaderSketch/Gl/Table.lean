/-!
# Tables of live objects

## Main definitions

* `Gl.Table` : objects by their handles
* `Gl.Table.get?`, `Gl.Table.insert`, `Gl.Table.modify`, `Gl.Table.erase` : the operations
-/

namespace ShaderSketch.Gl

/-- Objects by their handles, the newest first. -/
structure Table (α : Type) where
  entries : List (Nat × α) := []
  deriving Repr, DecidableEq

namespace Table

/-- The object that a handle names. -/
def get? {α : Type} (t : Table α) (h : Nat) : Option α := t.entries.lookup h

/-- Whether a handle names an object. -/
def contains {α : Type} (t : Table α) (h : Nat) : Bool := (t.get? h).isSome

/-- The table with one more object. -/
def insert {α : Type} (t : Table α) (h : Nat) (a : α) : Table α := ⟨(h, a) :: t.entries⟩

/-- The table with one object changed. -/
def modify {α : Type} (t : Table α) (h : Nat) (f : α → α) : Table α :=
  ⟨t.entries.map fun (k, a) => if k = h then (k, f a) else (k, a)⟩

/-- The table without one object. -/
def erase {α : Type} (t : Table α) (h : Nat) : Table α := ⟨t.entries.filter (·.1 ≠ h)⟩

/-- The number of objects. -/
def size {α : Type} (t : Table α) : Nat := t.entries.length

end Table

end ShaderSketch.Gl
