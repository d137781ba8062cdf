import ShaderSketch.Json.Number

/-!
# Skipped values

The value of a key that a document does not need. Its form is checked, its content is not formed:
nesting may be of any depth, a lone surrogate and a number out of range pass.

## Main definitions

* `Json.Frame` : an open list or object
* `Json.skipValue` : the rest after a value

## Design notes

One value after another is skipped with the open lists and objects on a stack, innermost first.
-/

namespace ShaderSketch.Json

/-- An open list or object. -/
inductive Frame
  | list
  | object
  deriving Repr, DecidableEq

/-- The fault of a text that ends inside a list or an object. -/
def Frame.unclosed : Frame → Cause
  | .list => .endOfList
  | .object => .endOfObject

/-- The fault of something else where a list or an object has to go on or end. -/
def Frame.unseparated : Frame → Cause
  | .list => .expectedListEnd
  | .object => .expectedObjectEnd

/-- The character that closes a list or an object. -/
def Frame.closer : Frame → Char
  | .list => ']'
  | .object => '\x7d'

/-- The rest after a value that has no parts, or the frame that a list or object opens. -/
def skipPart (s : List Char) : Except Fault (Option Frame × Rest s) :=
  match s with
  | [] => .error (.next .endOfValue [])
  | c :: r =>
    let letters (w : List Char) : Except Fault (Option Frame × Rest (c :: r)) :=
      match word w r with
      | .ok ⟨t, h⟩ => .ok (none, ⟨t, by simp; omega⟩)
      | .error f => .error f
    match c with
    | 'n' => letters ['u', 'l', 'l']
    | 't' => letters ['r', 'u', 'e']
    | 'f' => letters ['a', 'l', 's', 'e']
    | '"' =>
      match skipString r with
      | .ok ⟨t, h⟩ => .ok (none, ⟨t, length_lt_cons c h⟩)
      | .error f => .error f
    | '-' =>
      match skipNumber r with
      | .ok ⟨t, h⟩ => .ok (none, ⟨t, length_lt_cons c h⟩)
      | .error f => .error f
    | '[' => .ok (some .list, ⟨r, length_lt_cons_self c r⟩)
    | '\x7b' => .ok (some .object, ⟨r, length_lt_cons_self c r⟩)
    | c =>
      if isDigit c then
        match skipNumber (c :: r) with
        | .ok ⟨t, h⟩ => .ok (none, ⟨t, by simpa using h⟩)
        | .error f => .error f
      else .error (.next .expectedValue (c :: r))

/-- The rest after a key and its colon, read in front of the key. -/
def skipKey (s : List Char) : Except Fault { r : List Char // r.length ≤ s.length } :=
  match h : skipBlank s with
  | [] => .error (.next .endOfObject [])
  | '"' :: r =>
    match skipString r with
    | .error f => .error f
    | .ok ⟨t, ht⟩ =>
      match hc : skipBlank t with
      | [] => .error (.next .endOfObject [])
      | ':' :: u =>
        .ok ⟨u, by
          have h₁ := length_skipBlank_le s
          have h₂ := length_skipBlank_le t
          rw [h] at h₁; rw [hc] at h₂
          simp at h₁ h₂; omega⟩
      | c :: u => .error (.next .expectedColon (c :: u))
  | c :: r => .error (.next .keyNotString (c :: r))

/-- After a part and its closers: the rest and the frames still open, with the next value in front;
or the rest after the whole value. -/
inductive Follow (s : List Char)
  | done (rest : { r : List Char // r.length ≤ s.length })
  | more (frame : Frame) (outer : List Frame) (rest : { r : List Char // r.length ≤ s.length })

/-- The rest after the closers behind a part; `began` holds when the innermost frame already has a
part, so that a comma may come. -/
def skipClosers (began : Bool) (frame : Frame) (outer : List Frame) (s : List Char) :
    Except Fault (Follow s) :=
  match h : skipBlank s with
  | [] => .error (.next frame.unclosed [])
  | c :: r =>
    have hr : r.length < s.length := length_lt_of_skipBlank h
    if c = ',' ∧ began then .ok (.more frame outer ⟨r, Nat.le_of_lt hr⟩)
    else if c = frame.closer then
      match outer with
      | [] => .ok (.done ⟨r, Nat.le_of_lt hr⟩)
      | next :: outer =>
        match skipClosers true next outer r with
        | .error f => .error f
        | .ok (.done ⟨t, ht⟩) => .ok (.done ⟨t, by omega⟩)
        | .ok (.more fr out ⟨t, ht⟩) => .ok (.more fr out ⟨t, by omega⟩)
    else if began then .error (.next frame.unseparated (c :: r))
    else .ok (.more frame outer ⟨c :: r, length_lt_of_skipBlank h⟩)
termination_by s.length

/-- The rest after a part and its closers, or after the character that opens a frame. -/
def followPart (opened : Option Frame) (outer : List Frame) (s : List Char) :
    Except Fault (Follow s) :=
  match opened, outer with
  | some frame, outer => skipClosers false frame outer s
  | none, [] => .ok (.done (unread s))
  | none, frame :: outer => skipClosers true frame outer s

/-- The rest after a value, with the frames that it lies in, innermost first. -/
def skipNested (outer : List Frame) (s : List Char) : Except Fault (Rest s) :=
  have hb := length_skipBlank_le s
  match skipPart (skipBlank s) with
  | .error f => .error f
  | .ok (opened, ⟨r, h⟩) =>
    match followPart opened outer r with
    | .error f => .error f
    | .ok (.done ⟨t, ht⟩) => .ok ⟨t, by omega⟩
    | .ok (.more .list out ⟨t, ht⟩) =>
      match skipNested (.list :: out) t with
      | .ok ⟨u, hu⟩ => .ok ⟨u, by omega⟩
      | .error f => .error f
    | .ok (.more .object out ⟨t, ht⟩) =>
      match skipKey t with
      | .error f => .error f
      | .ok ⟨u, hu⟩ =>
        match skipNested (.object :: out) u with
        | .ok ⟨v, hv⟩ => .ok ⟨v, by omega⟩
        | .error f => .error f
termination_by s.length
decreasing_by all_goals omega

/-- The rest after a value whose content is not needed. -/
def skipValue (s : List Char) : Except Fault (Rest s) := skipNested [] s

end ShaderSketch.Json
