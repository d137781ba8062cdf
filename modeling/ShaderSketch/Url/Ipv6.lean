import ShaderSketch.Url.Ipv4

/-!
# Bracketed hosts

Addresses of eight groups of 16 bits. One run of zero groups may be left out, and the last two
groups may be written as four decimal bytes.

## Main definitions

* `Url.Ipv6.read` : the groups of an address
* `Url.Ipv6.render` : an address with its first longest run of zero groups left out

## Design notes

The groups before and after the gap are collected apart; without a gap there are eight, with one at
most seven.
-/

namespace ShaderSketch.Url.Ipv6

/-- What has been read of an address: the groups before the gap, whether there is a gap, and the
groups after it. -/
structure Groups where
  before : List Nat
  gap : Bool
  after : List Nat

/-- How many places are taken, a gap counting for one. -/
def Groups.taken (g : Groups) : Nat :=
  g.before.length + g.after.length + if g.gap then 1 else 0

/-- One more group. -/
def Groups.push (g : Groups) (n : Nat) : Groups :=
  if g.gap then { g with after := g.after ++ [n] } else { g with before := g.before ++ [n] }

/-- Whether all groups after a gap are counted: as the place of the gap takes one, a leading gap is
the second place. -/
def Groups.finish (g : Groups) : Except Error (List Nat) :=
  if g.gap then
    .ok (g.before ++ List.replicate (8 - g.before.length - g.after.length) 0 ++ g.after)
  else if g.before.length = 8 then .ok g.before
  else .error .invalidIpv6

/-- A decimal byte without a leading zero. -/
def byte? (s : List Char) : Option Nat :=
  match s with
  | [] => none
  | ['0'] => some 0
  | '0' :: _ => none
  | s =>
    if s.all (fun c => '0' ≤ c && c ≤ '9') then
      match Ipv4.inBase? 10 0 s with
      | some n => if n ≤ 255 then some n else none
      | none => none
    else none

/-- The two groups that four decimal bytes stand for. -/
def dotted? (s : List Char) : Option (Nat × Nat) :=
  match (Text.splitOn '.' s).map byte? with
  | [some a, some b, some c, some d] => some (a * 256 + b, c * 256 + d)
  | _ => none

/-- Groups of an address from the place after a separator; `tries` bounds the places. -/
def readGroups : (tries : Nat) → Groups → List Char → Except Error (List Nat)
  | _, g, [] => g.finish
  | 0, _, _ => .error .invalidIpv6
  | tries + 1, g, c :: s =>
    if g.taken = 8 then .error .invalidIpv6
    else if c = ':' then
      if g.gap then .error .invalidIpv6 else readGroups tries { g with gap := true } s
    else
      let run := ((c :: s).take 4).takeWhile fun c => (Ipv4.digit? c).isSome
      let rest := (c :: s).drop run.length
      let value := (Ipv4.inBase? 16 0 run).getD 0
      match rest with
      | [] => (g.push value).finish
      | '.' :: _ =>
        if run.isEmpty ∨ 6 < g.taken then .error .invalidIpv6
        else
          match dotted? (c :: s) with
          | some (a, b) => ((g.push a).push b).finish
          | none => .error .invalidIpv6
      | ':' :: rest =>
        if rest.isEmpty then .error .invalidIpv6 else readGroups tries (g.push value) rest
      | _ => .error .invalidIpv6

/-- The groups of an address, read without its brackets. -/
def read (s : List Char) : Except Error (List Nat) :=
  match s with
  | ':' :: ':' :: rest => readGroups 20 ⟨[], true, []⟩ rest
  | ':' :: _ => .error .invalidIpv6
  | _ :: _ :: _ => readGroups 20 ⟨[], false, []⟩ s
  | _ => .error .invalidIpv6

/-- The length of the run of zeros in front of some groups. -/
def zeroRun (groups : List Nat) : Nat := (groups.takeWhile (· = 0)).length

/-- The place and length of the first longest run of zeros. -/
def longestRun (place : Nat) : List Nat → Nat × Nat
  | [] => (place, 0)
  | g :: gs =>
    let here := zeroRun (g :: gs)
    let later := longestRun (place + 1) gs
    if later.2 ≤ here then (place, here) else later

/-- Groups between colons. -/
def renderGroups (groups : List Nat) : List Char :=
  ((groups.map (Nat.toDigits 16)).intersperse [':']).flatten

/-- An address with its first longest run of zero groups left out, if it has two or more. -/
def render (groups : List Nat) : List Char :=
  let (place, length) := longestRun 0 groups
  if length < 2 then renderGroups groups
  else renderGroups (groups.take place) ++ ':' :: ':' :: renderGroups (groups.drop (place + length))

end ShaderSketch.Url.Ipv6
