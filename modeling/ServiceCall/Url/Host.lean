import ServiceCall.Url.Domain
import ServiceCall.Url.Ipv4
import ServiceCall.Url.Ipv6

/-!
Hosts of URLs. A web host is a domain in its ASCII form or an IP address; a host of another scheme
is kept as it is written, with the characters beyond ASCII encoded.
-/

namespace ServiceCall.Url

/-- A host; an authority may also be present with no host in it. -/
inductive Host where
  | empty
  | domain (name : String)
  | ipv4 (address : UInt32)
  | ipv6 (pieces : List Nat)
  deriving DecidableEq, Repr

namespace Host

/-- The text of a host, IPv6 addresses standing in brackets. -/
def text : Host → String
  | .empty => ""
  | .domain name => name
  | .ipv4 address => Ipv4.text address
  | .ipv6 pieces => "[" ++ Ipv6.text pieces ++ "]"

/-- The text of a bracketed address after its opening bracket, if the closing one ends it. -/
def insideBrackets? (rest : List Char) : Option (List Char) :=
  if rest.getLast? = some ']' then some rest.dropLast else none

/-- Reads a bracketed address after its opening bracket. -/
def parseBracketed (rest : List Char) : Except Problem Host :=
  match insideBrackets? rest with
  | some inside => (Ipv6.parse inside).map .ipv6
  | none => .error .invalidIpv6

/-- Reads the host of a web URL. -/
def parseWeb : List Char → Except Problem Host
  | '[' :: rest => parseBracketed rest
  | written => do
    let name ← Domain.toAscii (percentDecode written)
    if name.isEmpty then .error .emptyHost
    else if Ipv4.endsInNumber name then (Ipv4.parse name).map .ipv4
    else .ok (.domain (String.ofList name))

/-- Whether a character is refused in a host that is kept as it is written. -/
def isForbidden (c : Char) : Bool :=
  ['\x00', '\t', '\n', '\r', ' ', '#', '/', ':', '<', '>', '?', '@', '[', '\\', ']', '^',
    '|'].contains c

/-- Reads the host of a URL of another scheme. -/
def parsePlain : List Char → Except Problem Host
  | '[' :: rest => parseBracketed rest
  | [] => .ok .empty
  | written =>
    if written.any isForbidden then .error .invalidHostCharacter
    else .ok (.domain (String.ofList (percentEncode controlSet written)))

end Host

end ServiceCall.Url
