import ServiceCall.Server.Metadata
import ServiceCall.Text.Blank
import ServiceCall.Text.Split

/-!
Physical servers, the text that configures one, and the text that identifies one. An entry is
host:port, a host in brackets with or without a port, or a bare host on port 80.
-/

namespace ServiceCall

/-- A physical server that a logical client name can resolve to. -/
structure Server where
  host : String
  port : UInt16
  zone : Option String := none
  metadata : Metadata := .empty
  deriving DecidableEq, Repr

/-- Why a server entry was refused, with the text that shows it. -/
inductive ServerProblem where
  | empty
  | unterminatedBracket (entry : String)
  | textAfterBracket (tail : String)
  | unbracketedIpv6 (entry : String)
  | missingHost (entry : String)
  | invalidPort (port : String)
  deriving DecidableEq, Repr

/-- The wording of a refusal. -/
def ServerProblem.message : ServerProblem → String
  | .empty => "empty server entry"
  | .unterminatedBracket entry => s!"unterminated IPv6 host in '{entry}'"
  | .textAfterBracket tail => s!"unexpected '{tail}' after IPv6 host"
  | .unbracketedIpv6 entry => s!"IPv6 host '{entry}' must be written in brackets"
  | .missingHost entry => s!"missing host in '{entry}'"
  | .invalidPort port => s!"invalid port '{port}'"

namespace Server

/-- The port of an entry that names none. -/
def defaultPort : UInt16 := 80

/-- A server with its published facts extended by one. -/
def withFact (server : Server) (key value : String) : Server :=
  { server with metadata := server.metadata.insert key value }

/-- A host is written in brackets exactly when it contains a colon. -/
def bracketedHost (host : String) : String :=
  if host.toList.contains ':' then "[" ++ host ++ "]" else host

/-- The identity of a server in statistics and messages. -/
def hostPort (server : Server) : String :=
  bracketedHost server.host ++ ":" ++ toString server.port.toNat

/-- The value of a nonempty run of ASCII digits. -/
def digitsValue? : List Char → Option Nat
  | [] => none
  | digits =>
    if digits.all Char.isDigit then
      some (digits.foldl (fun value c => value * 10 + (c.toNat - '0'.toNat)) 0)
    else none

/-- Reads a port: an optional plus sign, then digits with a value below 2^16. -/
def parsePort (text : List Char) : Except ServerProblem UInt16 :=
  let digits := match text with
    | '+' :: rest => rest
    | _ => text
  match digitsValue? digits with
  | some value =>
    if value < 65536 then .ok (UInt16.ofNat value)
    else .error (.invalidPort (String.ofList text))
  | none => .error (.invalidPort (String.ofList text))

/-- Reads what follows the opening bracket of an entry. -/
def parseBracketed (entry rest : List Char) : Except ServerProblem Server :=
  match Text.splitFirst? ']' rest with
  | none => .error (.unterminatedBracket (String.ofList entry))
  | some (host, []) => .ok { host := String.ofList host, port := defaultPort }
  | some (host, ':' :: port) =>
    (parsePort port).map fun port => { host := String.ofList host, port }
  | some (_, tail) => .error (.textAfterBracket (String.ofList tail))

/-- Reads an entry that does not start with a bracket, cut at its last colon. -/
def parsePlain (entry : List Char) : Except ServerProblem Server :=
  match Text.splitLast? ':' entry with
  | none => .ok { host := String.ofList entry, port := defaultPort }
  | some (host, port) =>
    if host.contains ':' then .error (.unbracketedIpv6 (String.ofList entry))
    else if host.isEmpty then .error (.missingHost (String.ofList entry))
    else (parsePort port).map fun port => { host := String.ofList host, port }

/-- Reads a server entry after dropping the blank characters around it. -/
def parse (text : String) : Except ServerProblem Server :=
  match Text.trim text.toList with
  | [] => .error .empty
  | '[' :: rest => parseBracketed ('[' :: rest) rest
  | entry => parsePlain entry

end Server

end ServiceCall
