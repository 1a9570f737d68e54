import ServiceCall.Duration
import ServiceCall.Server

/-!
The health and the statistics of one server: attempts in flight, attempts that ended, failures, and
the response times of the latest successes.
-/

namespace ServiceCall

/-- A server with its health flag and its counts. -/
structure Tracker where
  server : Server
  alive : Bool := true
  responseTimes : List Duration := []
  active : Nat := 0
  requests : Nat := 0
  errors : Nat := 0
  deriving DecidableEq, Repr

/-- A snapshot of a server's statistics. -/
structure ServerStats where
  server : String
  alive : Bool
  active : Nat
  requests : Nat
  errors : Nat
  errorRate : Float
  averageTime : Duration
  deriving Repr

/-- A failure of a computation that its caller cannot mend. -/
inductive Fatal where
  | durationOverflow
  | noCandidates (strategy : String)
  deriving DecidableEq, Repr

/-- The wording of a fatal failure. -/
def Fatal.message : Fatal → String
  | .durationOverflow => "overflow in iter::sum over durations"
  | .noCandidates strategy =>
    s!"{strategy}::select_server called with empty candidates slice"

namespace Tracker

/-- The number of response times that are kept. -/
def window : Nat := 10

/-- A tracker of a live server without any history. -/
def ofServer (server : Server) : Tracker := { server }

/-- The tracker after an attempt started. -/
def start (tracker : Tracker) : Tracker :=
  { tracker with active := tracker.active + 1 }

/-- The response times after one more success; a window that is exceeded loses its oldest time. -/
def pushTime (times : List Duration) (elapsed : Duration) : List Duration :=
  let pushed := times ++ [elapsed]
  if window < pushed.length then pushed.tail else pushed

/-- The tracker after an attempt ended in success or failure. -/
def finish (tracker : Tracker) (elapsed : Duration) (success : Bool) : Tracker :=
  let ended := { tracker with active := tracker.active - 1, requests := tracker.requests + 1 }
  if success then { ended with responseTimes := pushTime tracker.responseTimes elapsed }
  else { ended with errors := tracker.errors + 1 }

/-- The tracker after an attempt ended without reaching the server. -/
def release (tracker : Tracker) : Tracker :=
  { tracker with active := tracker.active - 1 }

/-- The average of the response times that are kept, zero when there are none. -/
def averageTime (tracker : Tracker) : Except Fatal Duration :=
  if tracker.responseTimes.isEmpty then .ok .zero
  else match Duration.sum? tracker.responseTimes with
    | some total => .ok (total.share tracker.responseTimes.length)
    | none => .error .durationOverflow

/-- The share of failures in percent. -/
def errorRate (tracker : Tracker) : Float :=
  if tracker.requests = 0 then 0.0
  else Float.ofNat tracker.errors / Float.ofNat tracker.requests * 100.0

/-- A snapshot of the statistics. -/
def stats (tracker : Tracker) : Except Fatal ServerStats := do
  let averageTime ← tracker.averageTime
  .ok { server := tracker.server.hostPort
        alive := tracker.alive
        active := tracker.active
        requests := tracker.requests
        errors := tracker.errors
        errorRate := tracker.errorRate
        averageTime }

end Tracker

end ServiceCall
