import ShaderSketch.Toml.Scalar

/-!
# TOML documents

A document fills one table line by line. A header chooses the table that the following lines fill;
dotted keys reach into tables below it. What was defined once is not defined again.

## Main definitions

* `Toml.Node` : a part of a table that is being filled
* `Toml.Node.reach` : changes the table at a path
* `Toml.value` : the reader of values
* `Toml.parse` : the table of a document

## Design notes

A table that exists only because a path leads through it may still be opened by a header, once,
unless it came from a dotted key; a table from a dotted key may be added to by dotted keys alone.
-/

namespace ShaderSketch.Toml

/-- A part of a table that is being filled: a value, a table, or an array of tables, of which the
last one is open. Of a table it is known whether only a path leads through it so far, and whether
that was a dotted key. -/
inductive Node
  | value (v : Value)
  | table (passing dotted : Bool) (entries : List (String × Node))
  | tables (closed : List (List (String × Node))) (last : List (String × Node))

/-- The parts of a table, in the order of the document. -/
abbrev Nodes := List (String × Node)

namespace Node

/-- The parts with one of them replaced. -/
def replace (nodes : Nodes) (name : String) (n : Node) : Nodes :=
  nodes.map fun (k, old) => if k = name then (k, n) else (k, old)

/-- Changes the table at a path, which is told whether it came from a dotted key. Tables on the way
are made where there are none; a dotted key does not pass tables that were opened by a header. -/
def reach (dotted : Bool) (change : Bool → Nodes → Option Nodes) (isDotted : Bool) (nodes : Nodes) :
    List String → Option Nodes
  | [] => change isDotted nodes
  | name :: path =>
    match nodes.lookup name with
    | none => do
      let below ← reach dotted change dotted [] path
      return nodes ++ [(name, .table true dotted below)]
    | some (.value _) => none
    | some (.tables closed last) => do
      let last ← reach dotted change false last path
      return replace nodes name (.tables closed last)
    | some (.table passing wasDotted entries) =>
      if dotted ∧ ¬ passing then none
      else do
        let entries ← reach dotted change wasDotted entries path
        return replace nodes name (.table passing wasDotted entries)

/-- Adds a value under a dotted key. -/
def define (nodes : Nodes) (key : List String) (v : Value) : Option Nodes :=
  match key.getLast? with
  | none => none
  | some name =>
    let path := key.dropLast
    reach true (fun isDotted below =>
      if isDotted = path.isEmpty then none
      else if (below.lookup name).isSome then none
      else some (below ++ [(name, .value v)])) false nodes path

/-- Opens the table of a header. -/
def openTable (nodes : Nodes) (key : List String) : Option Nodes :=
  match key.getLast? with
  | none => none
  | some name =>
    reach false (fun _ below =>
      match below.lookup name with
      | none => some (below ++ [(name, .table false false [])])
      | some (.table true false entries) =>
        some (below.filter (·.1 ≠ name) ++ [(name, .table false false entries)])
      | some _ => none) false nodes key.dropLast

/-- Opens one more table of an array of tables. -/
def openElement (nodes : Nodes) (key : List String) : Option Nodes :=
  match key.getLast? with
  | none => none
  | some name =>
    reach false (fun _ below =>
      match below.lookup name with
      | none => some (below ++ [(name, .tables [] [])])
      | some (.tables closed last) =>
        some (replace below name (.tables (closed ++ [last]) []))
      | some _ => none) false nodes key.dropLast

/-- Adds a value to the table that is open. -/
def defineIn (nodes : Nodes) (key : List String) (v : Value) : List String → Option Nodes
  | [] => define nodes key v
  | name :: path =>
    match nodes.lookup name with
    | some (.table passing dotted entries) => do
      let entries ← defineIn entries key v path
      return replace nodes name (.table passing dotted entries)
    | some (.tables closed last) => do
      let last ← defineIn last key v path
      return replace nodes name (.tables closed last)
    | _ => none

mutual

/-- The value that a part has become. -/
def toValue : Node → Value
  | .value v => v
  | .table _ _ entries => .table (toTable entries)
  | .tables closed last => .array (toTables closed ++ [.table (toTable last)])

/-- The table that parts have become. -/
def toTable : List (String × Node) → Table
  | [] => []
  | (k, n) :: rest => (k, toValue n) :: toTable rest

/-- The tables that lists of parts have become. -/
def toTables : List (List (String × Node)) → List Value
  | [] => []
  | nodes :: rest => .table (toTable nodes) :: toTables rest

end

end Node

/-- The elements of an array up to its end, given a bound on their number. -/
def elements (element : Reader Value) : Nat → Reader (List Value)
  | 0, _ => none
  | n + 1, s =>
    match skipLines s with
    | ']' :: s => some ([], s)
    | s => do
      let (v, s) ← element s
      match skipLines s with
      | ',' :: s =>
        let (vs, s) ← elements element n s
        return (v :: vs, s)
      | ']' :: s => return ([v], s)
      | _ => none

/-- A key, an equals sign and a value. -/
def pair (element : Reader Value) : Reader (List String × Value) := fun s => do
  let (k, s) ← key s
  let (_, s) ← token '=' s
  let (v, s) ← element (skipBlanks s)
  return ((k, v), s)

/-- The pairs of an inline table up to its end, given a bound on their number. -/
def pairs (element : Reader Value) : Nat → Reader (List (List String × Value))
  | 0, _ => none
  | n + 1, s => do
    let (p, s) ← pair element s
    match skipBlanks s with
    | ',' :: s =>
      let (ps, s) ← pairs element n s
      return (p :: ps, s)
    | '\x7d' :: s => return ([p], s)
    | _ => none

/-- An inline table behind its brace. -/
def inlineTable (element : Reader Value) : Reader Value := fun s =>
  match skipBlanks s with
  | '\x7d' :: s => some (.table [], s)
  | s => do
    let (ps, s) ← pairs element (s.length + 1) s
    let nodes ← ps.foldlM (fun nodes (k, v) => Node.define nodes k v) []
    return (.table (Node.toTable nodes), s)

/-- A value that nests no deeper than a number of levels. -/
def value : (levels : Nat) → Reader Value
  | levels, s =>
    match s, levels with
    | '"' :: _, _ | '\'' :: _, _ => (string s).map fun (t, s) => (.string (String.ofList t), s)
    | '[' :: s, levels + 1 =>
      (elements (value levels) (s.length + 1) s).map fun (vs, s) => (.array vs, s)
    | '\x7b' :: s, levels + 1 => inlineTable (value levels) s
    | s, _ => scalar s

/-- A document that is being read: its parts, and the path of the table that is open. -/
structure Draft where
  nodes : Nodes := []
  path : List String := []

namespace Draft

/-- Opens the table of a header, whose first bracket was read. -/
def header (d : Draft) : List Char → Option (Draft × List Char)
  | '[' :: s => do
    let (k, s) ← key s
    let (_, s) ← token ']' s
    let (_, s) ← token ']' s
    return (⟨← Node.openElement d.nodes k, k⟩, ← lineEnd s)
  | s => do
    let (k, s) ← key s
    let (_, s) ← token ']' s
    return (⟨← Node.openTable d.nodes k, k⟩, ← lineEnd s)

/-- Takes in what stands on a line. -/
def line (d : Draft) (s : List Char) : Option (Draft × List Char) :=
  match s with
  | '[' :: s => d.header s
  | s => do
    let ((k, v), s) ← pair (value (depthLimit - 1)) s
    return ({ d with nodes := ← Node.defineIn d.nodes k v d.path }, ← lineEnd s)

/-- Takes in all lines, given a bound on their number. -/
def lines (d : Draft) : Nat → List Char → Option Draft
  | 0, _ => none
  | n + 1, s =>
    match skipLines s with
    | [] => some d
    | s =>
      match d.line s with
      | some (d, s) => lines d n s
      | none => none

end Draft

/-- The mark that may stand in front of a document. -/
def byteOrderMark : Char := '\ufeff'

/-- The table of a document, unless it is none. -/
def parse (text : List Char) : Option Table :=
  let s := if text.head? = some byteOrderMark then text.drop 1 else text
  (Draft.lines {} (s.length + 1) s).map fun d => Node.toTable d.nodes

end ShaderSketch.Toml
