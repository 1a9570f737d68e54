import ServiceCall.Config.Basic
import ServiceCall.Failure

/-! How often a failed call may be repeated, on the same server and on another one. -/

namespace ServiceCall

/-- The retry bounds of a client. -/
structure RetryBounds where
  sameServer : Nat := 0
  nextServer : Nat := 1
  deriving DecidableEq, Repr

/-- The bounds a client is configured with. -/
def RetryBounds.ofConfig (config : ClientConfig) : RetryBounds :=
  { sameServer := config.sameServerRetries, nextServer := config.nextServerRetries }

/-- The retry decision for one call: the bounds, and for each whether it may be used at all. -/
structure RetryPolicy where
  onSameServer : Bool
  onNextServer : Bool
  bounds : RetryBounds
  deriving DecidableEq, Repr

namespace RetryPolicy

/-- Whether an attempt that failed may be repeated, on the same server or on another one. -/
def mayRetry (policy : RetryPolicy) (error : CallError) (sameServer : Bool) : Bool :=
  error.isRetriable && if sameServer then policy.onSameServer else policy.onNextServer

/-- The retries allowed on one server. -/
def sameServerRetries (policy : RetryPolicy) : Nat :=
  if policy.onSameServer then policy.bounds.sameServer else 0

/-- The moves allowed to another server. -/
def nextServerRetries (policy : RetryPolicy) : Nat :=
  if policy.onNextServer then policy.bounds.nextServer else 0

end RetryPolicy

end ServiceCall
