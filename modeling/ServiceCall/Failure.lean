import ServiceCall.Duration
import ServiceCall.Failure.Misconfiguration
import ServiceCall.Text.Utf8
import ServiceCall.Url.Problem

/-!
The ways a call can fail, their wording, and the two questions retries and statistics ask of them:
whether a failed attempt may be repeated, and whether it counts against its server.
-/

namespace ServiceCall

/-- The stage at which a transport gave up. -/
inductive TransportStage where
  | building
  | sending
  | decoding
  | status (code : Nat) (reason : String)
  deriving DecidableEq, Repr

/-- A failure reported by a transport, with the address it concerned if that is known. -/
structure TransportFault where
  stage : TransportStage
  address : Option String := none
  deriving DecidableEq, Repr

/-- The wording of a transport stage. -/
def TransportStage.message : TransportStage → String
  | .building => "builder error"
  | .sending => "error sending request"
  | .decoding => "error decoding response body"
  | .status code reason =>
    let side := if code < 500 then "client" else "server"
    s!"HTTP status {side} error ({code} {reason})"

/-- The wording of a transport failure. -/
def TransportFault.message (fault : TransportFault) : String :=
  fault.stage.message ++ match fault.address with
    | some address => s!" for url ({address})"
    | none => ""

/-- Why a URI could not be read or bound to a server. -/
inductive UriFault where
  | stated (message : String)
  | malformed (problem : Url.Problem)
  | unparsable (uri : String) (problem : Url.Problem)
  | unbindable (uri server : String) (problem : Url.Problem)
  | withoutPort (port : UInt16) (uri : String)
  deriving DecidableEq, Repr

/-- The wording of a URI fault. -/
def UriFault.message : UriFault → String
  | .stated message => message
  | .malformed problem => problem.message
  | .unparsable uri problem => s!"'{uri}': " ++ problem.message
  | .unbindable uri server problem => s!"Cannot bind '{uri}' to {server}: " ++ problem.message
  | .withoutPort port uri => s!"Cannot set port {port.toNat} on '{uri}'"

/-- Why a response body could not be decoded. -/
inductive PayloadFault where
  | stated (message : String)
  | notUtf8 (fault : Utf8.Fault)
  | notJson
  deriving DecidableEq, Repr

/-- The wording of a payload fault. -/
def PayloadFault.message : PayloadFault → String
  | .stated message => message
  | .notUtf8 fault => "Body is not valid UTF-8: " ++ fault.message
  | .notJson => "Body is not the expected JSON"

/-- How a call, or the construction of a client, failed. -/
inductive CallError where
  | transport (fault : TransportFault)
  | io (message : String)
  | timeout (after : Duration)
  | configuration (fault : Misconfiguration)
  | invalidUri (fault : UriFault)
  | noServer (client : String)
  | retriesExhausted (attempts : Nat) (last : CallError)
  | circuitOpen (command : String)
  | payload (fault : PayloadFault)
  deriving DecidableEq, Repr

namespace CallError

/-- The wording of a failure. -/
def message : CallError → String
  | .transport fault => "Transport error: " ++ fault.message
  | .io message => "I/O error: " ++ message
  | .timeout after => "Call timed out after " ++ after.text
  | .configuration fault => "Configuration error: " ++ fault.message
  | .invalidUri fault => "Invalid URI: " ++ fault.message
  | .noServer client => s!"No server available for client '{client}'"
  | .retriesExhausted attempts last => s!"Gave up after {attempts} attempts: " ++ last.message
  | .circuitOpen command => "Circuit open for command " ++ command
  | .payload fault => "Parse error: " ++ fault.message

/--
Whether a failed attempt may be repeated at all. Only failures of the transport qualify, and among
them not a request that could not be built, which would fail the same way everywhere.
-/
def isRetriable : CallError → Bool
  | .transport fault => fault.stage != .building
  | .io _ | .timeout _ => true
  | _ => false

/-- Whether a failure counts against the server it was met at. -/
def isServerFailure : CallError → Bool
  | .transport fault => fault.stage == .sending
  | .io _ | .timeout _ => true
  | _ => false

/-- The wordings of the causes behind a failure, the nearest first. -/
def causes : CallError → List String
  | .transport fault => [fault.message]
  | .io message => [message]
  | .retriesExhausted _ last => last.message :: last.causes
  | _ => []

end CallError

end ServiceCall
