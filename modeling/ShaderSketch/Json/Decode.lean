import ShaderSketch.Json.Skip
import ShaderSketch.Text.Quoted

/-!
# Decoding documents

Documents of a fixed shape, built from strings, lists and records with one field, read in one pass
that refuses a text at the first place where it departs from the shape.

## Main definitions

* `Json.mismatch` : the fault of a value of the wrong kind
* `Json.text` : a string
* `Json.elements` : a list of values of one shape
* `Json.record` : an object whose one field is needed, or a list of that field alone
* `Json.decode` : a whole text

## Design notes

A record may be written as an object, where other keys are skipped and the field occurs exactly
once, or as a list with the field's value as its only element. A fault of a record as a whole (a
field missing or repeated, an empty list) is placed after the closing character where that comes
next, and where reading stopped otherwise.
-/

namespace ShaderSketch.Json

/-- The fault of a value that is not of the wanted kind, read in front of it. -/
def mismatch (wanted : String) (s : List Char) : Fault :=
  let refuse (found : String) (rest : List Char) : Fault := .here (.mismatch found wanted) rest
  match s with
  | [] => .next .expectedValue []
  | c :: r =>
    let letters (w : List Char) (found : String) : Fault :=
      match word w r with
      | .ok t => refuse found t.1
      | .error f => f
    match c with
    | 'n' => letters ['u', 'l', 'l'] "null"
    | 't' => letters ['r', 'u', 'e'] "boolean `true`"
    | 'f' => letters ['a', 'l', 's', 'e'] "boolean `false`"
    | '"' =>
      match stringTail r with
      | .ok (cs, t) => refuse ("string " ++ Text.quoted cs) t.1
      | .error f => f
    | '[' => refuse "sequence" (c :: r)
    | '\x7b' => refuse "map" (c :: r)
    | '-' =>
      match number true r with
      | .ok (n, t) => refuse n.describe t.1
      | .error f => f
    | c =>
      if isDigit c then
        match number false (c :: r) with
        | .ok (n, t) => refuse n.describe t.1
        | .error f => f
      else .next .expectedValue (c :: r)

/-- A string. -/
def text : Reader String := fun s =>
  match h : skipBlank s with
  | [] => .error (.next .endOfValue [])
  | '"' :: r =>
    match stringTail r with
    | .ok (cs, ⟨t, ht⟩) => .ok (String.ofList cs, ⟨t, Nat.lt_trans ht (length_lt_of_skipBlank h)⟩)
    | .error f => .error f
  | c :: r => .error (mismatch "a string" (c :: r))

/-- Whether a list goes on; `began` holds when it already has an element. A closing bracket is not
taken. -/
def nextElement (began : Bool) (s : List Char) :
    Except Fault (Option { r : List Char // r.length ≤ s.length }) :=
  have hb := length_skipBlank_le s
  match h : skipBlank s with
  | [] => .error (.next .endOfList [])
  | ']' :: _ => .ok none
  | c :: r =>
    if began then
      if c = ',' then
        have hr := length_skipBlank_le r
        match h₂ : skipBlank r with
        | [] => .error (.next .endOfValue [])
        | d :: t =>
          if d = ']' then .error (.next .trailingComma (d :: t))
          else .ok (some ⟨d :: t, by rw [h₂] at hr; rw [h] at hb; simp at hb hr ⊢; omega⟩)
      else .error (.next .expectedListEnd (c :: r))
    else .ok (some ⟨c :: r, length_lt_of_skipBlank h⟩)

/-- The text after a closing bracket. -/
def endList (s : List Char) : Except Fault (Rest s) :=
  have hb := length_skipBlank_le s
  match h : skipBlank s with
  | [] => .error (.next .endOfList [])
  | ']' :: r => .ok ⟨r, by rw [h] at hb; simp at hb; omega⟩
  | ',' :: r =>
    match skipBlank r with
    | ']' :: t => .error (.next .trailingComma (']' :: t))
    | t => .error (.next .trailingCharacters t)
  | c :: r => .error (.next .trailingCharacters (c :: r))

/-- The text after a closing brace. -/
def endObject (s : List Char) : Except Fault (Rest s) :=
  have hb := length_skipBlank_le s
  match h : skipBlank s with
  | [] => .error (.next .endOfObject [])
  | '\x7d' :: r => .ok ⟨r, by rw [h] at hb; simp at hb; omega⟩
  | ',' :: r => .error (.next .trailingComma (',' :: r))
  | c :: r => .error (.next .trailingCharacters (c :: r))

/-- Where reading stops at a fault of an object as a whole: after the closing brace if that comes
next, else in front of what comes next. -/
def leaveObject (s : List Char) : List Char :=
  match skipBlank s with
  | '\x7d' :: r => r
  | t => t

/-- The elements of a list up to its closing bracket, which is not taken. -/
def elementsTail {α : Type} (item : Reader α) (began : Bool) (s : List Char) :
    Except Fault (List α × { r : List Char // r.length ≤ s.length }) :=
  match nextElement began s with
  | .error f => .error f
  | .ok none => .ok ([], unread s)
  | .ok (some ⟨t, ht⟩) =>
    match item t with
    | .error f => .error f
    | .ok (a, ⟨u, hu⟩) =>
      match elementsTail item true u with
      | .ok (as, ⟨v, hv⟩) => .ok (a :: as, ⟨v, by omega⟩)
      | .error f => .error f
termination_by s.length
decreasing_by omega

/-- A list of values of one shape. -/
def elements {α : Type} (item : Reader α) : Reader (List α) := fun s =>
  have hb := length_skipBlank_le s
  match h : skipBlank s with
  | [] => .error (.next .endOfValue [])
  | '[' :: r =>
    match elementsTail item false r with
    | .error f => .error f
    | .ok (as, ⟨t, ht⟩) =>
      match endList t with
      | .ok ⟨u, hu⟩ => .ok (as, ⟨u, by rw [h] at hb; simp at hb; omega⟩)
      | .error f => .error f
  | c :: r => .error (mismatch "a sequence" (c :: r))

/-- Whether an object goes on: the text after the opening quote of the next key. A closing brace is
not taken. -/
def nextKey (began : Bool) (s : List Char) : Except Fault (Option (Rest s)) :=
  have hb := length_skipBlank_le s
  match h : skipBlank s with
  | [] => .error (.next .endOfObject [])
  | '\x7d' :: _ => .ok none
  | c :: r =>
    if began then
      if c = ',' then
        have hr := length_skipBlank_le r
        match h₂ : skipBlank r with
        | [] => .error (.next .endOfValue [])
        | '"' :: t => .ok (some ⟨t, by rw [h₂] at hr; rw [h] at hb; simp at hb hr; omega⟩)
        | '\x7d' :: t => .error (.next .trailingComma ('\x7d' :: t))
        | d :: t => .error (.next .keyNotString (d :: t))
      else .error (.next .expectedObjectEnd (c :: r))
    else if c = '"' then .ok (some ⟨r, length_lt_of_skipBlank h⟩)
    else .error (.next .keyNotString (c :: r))

/-- The text after the colon behind a key. -/
def colon (s : List Char) : Except Fault (Rest s) :=
  have hb := length_skipBlank_le s
  match h : skipBlank s with
  | [] => .error (.next .endOfObject [])
  | ':' :: r => .ok ⟨r, by rw [h] at hb; simp at hb; omega⟩
  | c :: r => .error (.next .expectedColon (c :: r))

/-- The members of an object up to its closing brace, which is not taken: the value of the one
field that is needed, if it came. -/
def membersTail {α : Type} (field : String) (value : Reader α) (found : Option α) (began : Bool)
    (s : List Char) : Except Fault (Option α × { r : List Char // r.length ≤ s.length }) :=
  match nextKey began s with
  | .error f => .error f
  | .ok none => .ok (found, unread s)
  | .ok (some ⟨t, ht⟩) =>
    match stringTail t with
    | .error f => .error f
    | .ok (key, ⟨u, hu⟩) =>
      if key = field.toList then
        match found with
        | some _ => .error (.here (.repeatedField field) (leaveObject u))
        | none =>
          match colon u with
          | .error f => .error f
          | .ok ⟨v, hv⟩ =>
            match value v with
            | .error f => .error f
            | .ok (a, ⟨w, hw⟩) =>
              match membersTail field value (some a) true w with
              | .ok (a, ⟨x, hx⟩) => .ok (a, ⟨x, by omega⟩)
              | .error f => .error f
      else
        match colon u with
        | .error f => .error f
        | .ok ⟨v, hv⟩ =>
          match skipValue v with
          | .error f => .error f
          | .ok ⟨w, hw⟩ =>
            match membersTail field value found true w with
            | .ok (a, ⟨x, hx⟩) => .ok (a, ⟨x, by omega⟩)
            | .error f => .error f
termination_by s.length
decreasing_by all_goals omega

/-- A record with one field, given what the messages call it. -/
def record {α : Type} (kind field : String) (value : Reader α) : Reader α := fun s =>
  have hb := length_skipBlank_le s
  match h : skipBlank s with
  | [] => .error (.next .endOfValue [])
  | '[' :: r =>
    match nextElement false r with
    | .error f => .error f
    | .ok none =>
      let after := match endList r with | .ok t => t.1 | .error _ => r
      .error (.here (.tooShort (kind ++ " with 1 element")) after)
    | .ok (some ⟨t, ht⟩) =>
      match value t with
      | .error f => .error f
      | .ok (a, ⟨u, hu⟩) =>
        match endList u with
        | .error f => .error f
        | .ok ⟨v, hv⟩ => .ok (a, ⟨v, by rw [h] at hb; simp at hb; omega⟩)
  | '\x7b' :: r =>
    match membersTail field value none false r with
    | .error f => .error f
    | .ok (found, ⟨t, ht⟩) =>
      match found, endObject t with
      | some a, .ok ⟨u, hu⟩ => .ok (a, ⟨u, by rw [h] at hb; simp at hb; omega⟩)
      | some _, .error f => .error f
      | none, _ => .error (.here (.missingField field) (leaveObject t))
  | c :: r => .error (mismatch kind (c :: r))

/-- A text that holds one value and nothing else but blanks. -/
def decode {α : Type} (value : Reader α) (s : List Char) : Except Fault α :=
  match value s with
  | .error f => .error f
  | .ok (a, ⟨r, _⟩) =>
    match skipBlank r with
    | [] => .ok a
    | t => .error (.next .trailingCharacters t)

end ShaderSketch.Json
