import ServiceCall.Duration

/-! Connect and read timeouts, and the overrides a single call may bring. -/

namespace ServiceCall

/-- The connect and read timeouts of a call, in milliseconds. -/
structure Timeouts where
  connectMillis : UInt64
  readMillis : UInt64
  deriving DecidableEq, Repr

namespace Timeouts

/-- The connect timeout as a span. -/
def connect (timeouts : Timeouts) : Duration :=
  .ofMillis timeouts.connectMillis

/-- The read timeout as a span. -/
def read (timeouts : Timeouts) : Duration :=
  .ofMillis timeouts.readMillis

/-- The longest time one attempt may take: the sum of both timeouts. -/
def total (timeouts : Timeouts) : Duration :=
  .ofParts (timeouts.connect.secs.toNat + timeouts.read.secs.toNat)
    (timeouts.connect.nanos + timeouts.read.nanos)

end Timeouts

/-- Timeouts given for one call; an absent field keeps the value of the client. -/
structure TimeoutOverride where
  connectMillis : Option UInt64 := none
  readMillis : Option UInt64 := none
  deriving DecidableEq, Repr

namespace TimeoutOverride

/-- An override of the connect timeout alone. -/
def ofConnect (millis : UInt64) : TimeoutOverride := { connectMillis := some millis }

/-- An override of the read timeout alone. -/
def ofRead (millis : UInt64) : TimeoutOverride := { readMillis := some millis }

/-- The override with another connect timeout. -/
def withConnect (override : TimeoutOverride) (millis : UInt64) : TimeoutOverride :=
  { override with connectMillis := some millis }

/-- The override with another read timeout. -/
def withRead (override : TimeoutOverride) (millis : UInt64) : TimeoutOverride :=
  { override with readMillis := some millis }

/-- Each field of the override where it is present, and else that of the defaults. -/
def merge (override : TimeoutOverride) (defaults : Timeouts) : Timeouts :=
  { connectMillis := override.connectMillis.getD defaults.connectMillis
    readMillis := override.readMillis.getD defaults.readMillis }

end TimeoutOverride

end ServiceCall
