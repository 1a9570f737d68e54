import ServiceCall.Http.Request
import ServiceCall.Http.Response
import ServiceCall.Http.Timeouts

/-! The seam between calls and the network: a transport answers one request at a time. -/

namespace ServiceCall

/-- How one request went: the time it took, and the response or the failure it ended in. -/
structure Reply where
  took : Duration
  outcome : Except CallError Response

/-- A transport over states of some type, so that a reply may depend on everything before it. -/
abbrev Transport (τ : Type) := Request → Timeouts → τ → Reply × τ

end ServiceCall
