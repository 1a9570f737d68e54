import ServiceCall.Config.Basic
import ServiceCall.Toml.Document

/-!
Configurations from TOML values. A section is a table whose unknown keys are ignored, or an array
that gives the fields of the section in their order; a date stands for a section without fields.
-/

namespace ServiceCall.Config

open Toml (Value)

/--
The fields of a section by their order. An array must give the leading fields that have no default
of their own, and no more fields than there are.
-/
def sectionFields (names : List String) (required : Nat) : Value → Option (List (Option Value))
  | .table entries => some (names.map fun name => entries.lookup name)
  | .array elements =>
    if required ≤ elements.length ∧ elements.length ≤ names.length then
      some (elements.map some ++ List.replicate (names.length - elements.length) none)
    else none
  | .date _ => some (names.map fun _ => none)
  | _ => none

/-- A field that may be absent, but must have the right form where it is present. -/
def optional {α : Type} (decode : Value → Option α) : Option Value → Option (Option α)
  | none => some none
  | some value => (decode value).map some

/-- A natural number. -/
def natural? : Value → Option Nat
  | .integer value => if 0 ≤ value then some value.toNat else none
  | _ => none

/-- A number of milliseconds. -/
def millis? (value : Value) : Option UInt64 :=
  (natural? value).map UInt64.ofNat

/-- A port number. -/
def port? (value : Value) : Option UInt16 :=
  (natural? value).bind fun port => if port < 65536 then some (UInt16.ofNat port) else none

/-- A truth value. -/
def boolean? : Value → Option Bool
  | .boolean value => some value
  | _ => none

/-- A text. -/
def text? : Value → Option String
  | .string value => some value
  | _ => none

/-- A list of values of one form. -/
def list? {α : Type} (decode : Value → Option α) : Value → Option (List α)
  | .array elements => elements.mapM decode
  | _ => none

/-- The section of the defaults. -/
def defaults? (value : Value) : Option Defaults := do
  let names := ["connect_timeout_ms", "read_timeout_ms", "ok_to_retry_on_all_operations",
    "max_auto_retries", "max_auto_retries_next_server", "strategy", "secure_ports"]
  let [connect, read, retryAll, same, next, strategy, ports] ← sectionFields names 0 value | none
  let standard : Defaults := {}
  some {
    connectTimeoutMillis := (← optional millis? connect).getD standard.connectTimeoutMillis
    readTimeoutMillis := (← optional millis? read).getD standard.readTimeoutMillis
    retryAllOperations := (← optional boolean? retryAll).getD standard.retryAllOperations
    sameServerRetries := (← optional natural? same).getD standard.sameServerRetries
    nextServerRetries := (← optional natural? next).getD standard.nextServerRetries
    strategy := (← optional text? strategy).getD standard.strategy
    securePorts := (← optional (list? port?) ports).getD standard.securePorts }

/-- The section of the circuit breaker: whether it is enabled. -/
def circuitBreaker? (value : Value) : Option Bool := do
  let [enabled] ← sectionFields ["enabled"] 0 value | none
  some ((← optional boolean? enabled).getD false)

/-- The section of one client. -/
def overrides? (value : Value) : Option ClientOverrides := do
  let names := ["connect_timeout_ms", "read_timeout_ms", "ok_to_retry_on_all_operations",
    "max_auto_retries", "max_auto_retries_next_server", "strategy", "is_secure", "servers"]
  let [connect, read, retryAll, same, next, strategy, secure, servers] ←
    sectionFields names 7 value | none
  some {
    connectTimeoutMillis := ← optional millis? connect
    readTimeoutMillis := ← optional millis? read
    retryAllOperations := ← optional boolean? retryAll
    sameServerRetries := ← optional natural? same
    nextServerRetries := ← optional natural? next
    strategy := ← optional text? strategy
    isSecure := ← optional boolean? secure
    servers := (← optional (list? text?) servers).getD [] }

/-- The sections of all clients. -/
def clients? : Value → Option (List (String × ClientOverrides))
  | .table entries => entries.mapM fun (name, value) => (overrides? value).map (name, ·)
  | _ => none

/-- The configuration of a document. -/
def ofEntries? (entries : List (String × Value)) : Option Config := do
  some {
    defaults := (← optional defaults? (entries.lookup "defaults")).getD {}
    circuitBreaker := (← optional circuitBreaker? (entries.lookup "circuit_breaker")).getD false
    clients := (← optional clients? (entries.lookup "clients")).getD [] }

/-- The configuration of a TOML text, before references are resolved. -/
def ofToml? (text : String) : Option Config :=
  (Toml.parse? text).bind ofEntries?

end ServiceCall.Config
