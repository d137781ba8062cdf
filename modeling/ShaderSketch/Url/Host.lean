import ShaderSketch.Url.Ipv6
import ShaderSketch.Url.Percent
import ShaderSketch.Idna.Domain

/-!
# Hosts

## Main definitions

* `Url.Host` : a domain name or an address
* `Url.Host.read` : the host of a web address
* `Url.Host.checkOpaque` : the check of a host that is not interpreted
* `Url.Host.render` : a host as it is written
-/

namespace ShaderSketch.Url

/-- A domain name or an address. -/
inductive Host
  | domain (name : List Char)
  | ipv4 (address : Nat)
  | ipv6 (groups : List Nat)
  deriving Repr, DecidableEq

namespace Host

/-- An address between brackets, read after the opening one. -/
def readBracketed (s : List Char) : Except Error Host :=
  if s.getLast? = some ']' then (Ipv6.read s.dropLast).map .ipv6 else .error .invalidIpv6

/-- The host of a web address. -/
def read (s : List Char) : Except Error Host :=
  match s with
  | '[' :: rest => readBracketed rest
  | s =>
    match (Utf8.decode? (Percent.decode s)).bind Idna.toAscii? with
    | none => .error .invalidDomain
    | some [] => .error .emptyHost
    | some name =>
      if Ipv4.isNumeric name then (Ipv4.read name).map .ipv4 else .ok (.domain name)

/-- The characters that no host holds. -/
def forbidden (c : Char) : Bool :=
  ['\x00', '\t', '\n', '\r', ' ', '#', '/', ':', '<', '>', '?', '@', '[', '\\', ']', '^',
    '|'].contains c

/-- The check of a host that is not interpreted. -/
def checkOpaque (s : List Char) : Except Error Unit :=
  match s with
  | '[' :: rest => (readBracketed rest).map fun _ => ()
  | s => if s.any forbidden then .error .invalidHostCharacter else .ok ()

/-- A host as it is written. -/
def render : Host → List Char
  | .domain name => name
  | .ipv4 n => Ipv4.render n
  | .ipv6 groups => '[' :: (Ipv6.render groups ++ [']'])

end Host

end ShaderSketch.Url
