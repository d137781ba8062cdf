import ShaderSketch.Url.Host

/-!
# Web addresses

Absolute URLs, read as browsers read them: margins, tabs and line ends are dropped, backslashes
count as slashes, dot segments are resolved, and what a part does not hold is percent-encoded.

## Main definitions

* `Url` : the parts of an address
* `Url.Reading` : what a text turns out to be
* `Url.read` : the reading of a text
* `Url.render` : an address as it is written

## Design notes

Only schemes that have hosts and slashes of the common form get all their parts. Of others the
scheme is kept, after the checks that could still refuse the text. A path is held as the segments
that a slash ends and the last one.
-/

namespace ShaderSketch

/-- The parts of an address. -/
structure Url where
  scheme : List Char
  username : List Char
  password : List Char
  host : Url.Host
  port : Option Nat
  path : List (List Char) × List Char
  query : Option (List Char)
  fragment : Option (List Char)
  deriving Repr, DecidableEq

namespace Url

/-- What a text turns out to be: an address with all its parts, or a URL of another kind. -/
inductive Reading
  | address (url : Url)
  | other (scheme : List Char)
  deriving Repr, DecidableEq

/-- Whether a character is dropped at the margins. -/
def isMargin (c : Char) : Bool := c.toNat ≤ 0x20

/-- Whether a character is dropped wherever it stands. -/
def isDropped (c : Char) : Bool := c = '\t' || c = '\n' || c = '\r'

/-- A text without margins, tabs and line ends. -/
def clean (s : List Char) : List Char :=
  (((s.dropWhile isMargin).reverse.dropWhile isMargin).reverse).filter (!isDropped ·)

/-- Whether a character is an ASCII letter. -/
def isLetter (c : Char) : Bool := ('a' ≤ c && c ≤ 'z') || ('A' ≤ c && c ≤ 'Z')

/-- Whether a character may stand in a scheme. -/
def inScheme (c : Char) : Bool :=
  isLetter c || ('0' ≤ c && c ≤ '9') || c = '+' || c = '-' || c = '.'

/-- A text before its scheme's colon, in lower case, and after it. -/
def splitScheme? (s : List Char) : Option (List Char × List Char) :=
  let front := s.takeWhile inScheme
  match front, s.dropWhile inScheme with
  | c :: _, ':' :: rest => if isLetter c then some (front.map Char.toLower, rest) else none
  | _, _ => none

/-- The port of a scheme whose addresses have the common form. -/
def defaultPort? (scheme : List Char) : Option Nat :=
  if scheme = "http".toList ∨ scheme = "ws".toList then some 80
  else if scheme = "https".toList ∨ scheme = "wss".toList then some 443
  else if scheme = "ftp".toList then some 21
  else none

/-- Whether a character ends the part of a URL that names user, host and port. -/
def endsAuthority (special : Bool) (c : Char) : Bool :=
  c = '/' || c = '?' || c = '#' || (special && c = '\\')

/-- The text before and after the last at sign of an authority. -/
def splitUserinfo (special : Bool) (s : List Char) : Option (List Char × List Char) :=
  let front := s.takeWhile (!endsAuthority special ·)
  let after := (front.reverse.takeWhile (· ≠ '@')).reverse
  if after.length = front.length then none
  else
    let before := front.length - after.length
    some (s.take (before - 1), s.drop before)

/-- User name and password in front of an at sign. -/
def readUserinfo (s : List Char) : List Char × List Char :=
  let name := s.takeWhile (· ≠ ':')
  (Percent.encode Percent.inUserinfo name,
    Percent.encode Percent.inUserinfo (s.drop (name.length + 1)))

/-- The text of a host, and what follows it; a colon between brackets belongs to the host. -/
def splitHost (special : Bool) : (bracketed : Bool) → List Char → List Char × List Char
  | _, [] => ([], [])
  | bracketed, c :: s =>
    if (c = ':' && !bracketed) || endsAuthority special c then ([], c :: s)
    else
      let inside := if c = '[' then true else if c = ']' then false else bracketed
      let (host, rest) := splitHost special inside s
      (c :: host, rest)

/-- The port after a colon, and what follows it. -/
def readPort (default? : Option Nat) (s : List Char) : Except Error (Option Nat × List Char) :=
  let digits := s.takeWhile fun c => '0' ≤ c && c ≤ '9'
  let rest := s.drop digits.length
  let value := (Ipv4.inBase? 10 0 digits).getD 0
  if 65535 < value then .error .invalidPort
  else if (rest.head?.map (endsAuthority true)).getD true then
    .ok (if digits.isEmpty ∨ some value = default? then none else some value, rest)
  else .error .invalidPort

/-- User, host text and port of an authority, and what follows it. -/
structure Authority where
  username : List Char
  password : List Char
  host : List Char
  rest : List Char

/-- The authority in front of a text. -/
def readAuthority (special : Bool) (s : List Char) : Except Error Authority :=
  match splitUserinfo special s with
  | none =>
    let (host, rest) := splitHost special false s
    .ok ⟨[], [], host, rest⟩
  | some (userinfo, after) =>
    if userinfo.isEmpty ∧ (after.head?.map (endsAuthority special)).getD false then
      .error .emptyHost
    else
      let (username, password) := readUserinfo userinfo
      let (host, rest) := splitHost special false after
      .ok ⟨username, password, host, rest⟩

/-- What a segment of a path does. -/
inductive Segment
  | up
  | stay
  | name (s : List Char)

/-- The ways to write a dot in a segment. -/
def isDot (s : List Char) : Bool := s = ['.'] || s.map Char.toLower = ['%', '2', 'e']

/-- The ways to write two dots in a segment. -/
def isTwoDots (s : List Char) : Bool :=
  match s with
  | '.' :: s => isDot s
  | '%' :: _ => isDot (s.take 3) && isDot (s.drop 3)
  | _ => false

/-- What a segment does. -/
def Segment.of (s : List Char) : Segment :=
  if isTwoDots s then .up else if isDot s then .stay else .name s

/-- Whether a segment looks like the letter of a drive, which no dots remove. -/
def isDrive (s : List Char) : Bool :=
  match s with
  | [a, b] => isLetter a && (b = ':' || b = '|')
  | _ => false

/-- The segments before a removed one. -/
def shorten : List (List Char) → List (List Char)
  | [] => []
  | s :: before => if isDrive s then s :: before else before

/-- Segments resolved from left to right; `before` holds those already ended by a slash, the last
first. -/
def resolve (before : List (List Char)) : List (List Char) → List (List Char) × List Char
  | [] => (before.reverse, [])
  | [s] =>
    match Segment.of s with
    | .up => ((shorten before).reverse, [])
    | .stay => (before.reverse, [])
    | .name s => (before.reverse, s)
  | s :: t :: more =>
    match Segment.of s with
    | .up => resolve (shorten before) (t :: more)
    | .stay => resolve before (t :: more)
    | .name s => resolve (s :: before) (t :: more)

/-- The pieces of a text between slashes of either kind. -/
def splitSlashes : List Char → List (List Char)
  | [] => [[]]
  | c :: s =>
    if c = '/' ∨ c = '\\' then [] :: splitSlashes s
    else
      match splitSlashes s with
      | [] => [[c]]
      | l :: ls => (c :: l) :: ls

/-- The path of a text that starts with a slash or is empty. -/
def readPath (s : List Char) : List (List Char) × List Char :=
  let s := match s with
    | c :: rest => if c = '/' ∨ c = '\\' then rest else c :: rest
    | [] => []
  resolve [] ((splitSlashes s).map (Percent.encode Percent.inPath))

/-- An address after the slashes of its scheme. -/
def readSpecial (scheme : List Char) (s : List Char) : Except Error Url := do
  let a ← readAuthority true s
  if a.host.isEmpty then throw .emptyHost
  let host ← Host.read a.host
  let (port, rest) ←
    match a.rest with
    | ':' :: rest => readPort (defaultPort? scheme) rest
    | rest => pure (none, rest)
  let path := rest.takeWhile fun c => c ≠ '?' && c ≠ '#'
  let rest := rest.drop path.length
  let query : Option (List Char) :=
    match rest with
    | '?' :: q => some (q.takeWhile (· ≠ '#'))
    | _ => none
  let fragment : Option (List Char) :=
    match rest.dropWhile (· ≠ '#') with
    | _ :: f => some f
    | [] => none
  return {
    scheme
    username := a.username
    password := a.password
    host
    port
    path := readPath path
    query := query.map (Percent.encode Percent.inSpecialQuery)
    fragment := fragment.map (Percent.encode Percent.inFragment) }

/-- The checks of a URL whose scheme has no addresses of the common form. -/
def checkOther (s : List Char) : Except Error Unit :=
  match s with
  | '/' :: '/' :: s => do
    let a ← readAuthority false s
    Host.checkOpaque a.host
    match a.rest with
    | ':' :: rest =>
      if a.host.isEmpty then throw .emptyHost
      let _ ← readPort none rest
    | _ => pure ()
    if a.host.isEmpty ∧ ¬ (a.username.isEmpty ∧ a.password.isEmpty) then throw .emptyHost
  | _ => .ok ()

/-- The checks of a file URL. -/
def checkFile (s : List Char) : Except Error Unit :=
  match s with
  | a :: b :: s =>
    if (a = '/' ∨ a = '\\') ∧ (b = '/' ∨ b = '\\') then
      let host := s.takeWhile (!endsAuthority true ·)
      if host.isEmpty ∨ isDrive host then .ok () else (Host.read host).map fun _ => ()
    else .ok ()
  | _ => .ok ()

/-- The reading of a text. -/
def read (text : List Char) : Except Error Reading :=
  match splitScheme? (clean text) with
  | none => .error .relativeWithoutBase
  | some (scheme, rest) =>
    if (defaultPort? scheme).isSome then
      (readSpecial scheme (rest.dropWhile fun c => c = '/' || c = '\\')).map .address
    else if scheme = "file".toList then (checkFile rest).map fun _ => .other scheme
    else (checkOther rest).map fun _ => .other scheme

/-- User name and password as they are written in front of a host. -/
def renderUserinfo (u : Url) : List Char :=
  if u.username.isEmpty ∧ u.password.isEmpty then []
  else u.username ++ (if u.password.isEmpty then [] else ':' :: u.password) ++ ['@']

/-- A path as it is written. -/
def renderPath (p : List (List Char) × List Char) : List Char :=
  '/' :: (p.1.flatMap (· ++ ['/']) ++ p.2)

/-- An address as it is written. -/
def render (u : Url) : List Char :=
  u.scheme ++ ':' :: '/' :: '/' :: (u.renderUserinfo ++ u.host.render
    ++ (match u.port with | some n => ':' :: Nat.toDigits 10 n | none => [])
    ++ renderPath u.path
    ++ (match u.query with | some q => '?' :: q | none => [])
    ++ (match u.fragment with | some f => '#' :: f | none => []))

end Url

end ShaderSketch
