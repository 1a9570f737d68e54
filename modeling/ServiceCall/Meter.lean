import ServiceCall.Duration
import ServiceCall.Failure

/-!
Measurements of calls: the samples that are emitted, the series each of them belongs to, and the
totals of the series.
-/

namespace ServiceCall

/-- The outcome of an attempt as a label: the class of its status, or that it failed. -/
inductive StatusLabel where
  | status (code : UInt16)
  | failed
  deriving DecidableEq, Repr

/-- The class of a status code. -/
def statusClass (code : UInt16) : String :=
  let hundreds := code.toNat / 100
  if 1 ≤ hundreds ∧ hundreds ≤ 5 then toString hundreds ++ "xx" else "other"

/-- The text of a status label. -/
def StatusLabel.text : StatusLabel → String
  | .status code => statusClass code
  | .failed => "error"

/-- The label that tells the kinds of failures apart. -/
def CallError.label : CallError → String
  | .transport _ => "transport"
  | .io _ => "io"
  | .timeout _ => "timeout"
  | .configuration _ => "configuration"
  | .invalidUri _ => "invalid_uri"
  | .noServer _ => "no_server"
  | .retriesExhausted _ _ => "retries_exhausted"
  | .circuitOpen _ => "circuit_open"
  | .payload _ => "parse"

/-- One emitted sample; server names are the identities of servers. -/
inductive Sample where
  | request (client server : String) (status : StatusLabel)
  | duration (client server : String) (elapsed : Duration)
  | failure (client server errorType : String)
  | retry (client : String) (sameServer : Bool)
  | fallback (client command : String) (fromFactory : Bool)
  deriving DecidableEq, Repr

/-- A series of samples: a name and labels in their order. -/
structure Series where
  name : String
  labels : List (String × String)
  deriving DecidableEq, Repr

/-- The text of a series: its name, and its labels in braces. -/
def Series.text (series : Series) : String :=
  let labels := series.labels.map fun (key, value) => key ++ "=" ++ value
  series.name ++ "\x7b" ++ String.intercalate "," labels ++ "\x7d"

namespace Sample

/-- The series of attempts sent to a server. -/
def requestsName : String := "lbclient_requests_total"

/-- The series of attempt durations. -/
def durationName : String := "lbclient_request_duration_seconds"

/-- The series of failed attempts. -/
def errorsName : String := "lbclient_errors_total"

/-- The series of retries. -/
def retriesName : String := "lbclient_retries_total"

/-- The series of fallback invocations. -/
def fallbacksName : String := "lbclient_fallbacks_total"

/-- The series a sample belongs to. -/
def series : Sample → Series
  | .request client server status =>
    ⟨requestsName, [("client", client), ("server", server), ("status", status.text)]⟩
  | .duration client server _ => ⟨durationName, [("client", client), ("server", server)]⟩
  | .failure client server errorType =>
    ⟨errorsName, [("client", client), ("server", server), ("error_type", errorType)]⟩
  | .retry client sameServer =>
    ⟨retriesName, [("client", client), ("target", if sameServer then "same" else "next")]⟩
  | .fallback client command fromFactory =>
    ⟨fallbacksName, [("client", client), ("command", command),
      ("kind", if fromFactory then "factory" else "instance")]⟩

end Sample

/-- All samples emitted so far, in order. -/
abbrev Meter := List Sample

namespace Meter

/-- The samples of an attempt that was answered. -/
def ofAnswer (client server : String) (status : UInt16) (elapsed : Duration) : Meter :=
  [.request client server (.status status), .duration client server elapsed]

/-- The samples of an attempt that failed after it was sent. -/
def ofFailure (client server : String) (error : CallError) (elapsed : Duration) : Meter :=
  [.request client server .failed, .duration client server elapsed,
    .failure client server error.label]

/-- The number of samples in a series. -/
def total (meter : Meter) (series : Series) : Nat :=
  meter.countP (·.series = series)

/-- The series that were touched, in the order of their first sample. -/
def touched (meter : Meter) : List Series :=
  (meter.map Sample.series).eraseDups

/-- The touched series with their totals. -/
def totals (meter : Meter) : List (Series × Nat) :=
  meter.touched.map fun series => (series, meter.total series)

end Meter

/-- How a series is announced: its instrument, name, unit and meaning. -/
structure Announcement where
  instrument : String
  name : String
  unit : String
  meaning : String
  deriving DecidableEq, Repr

/-- The announcements of all series, in order. -/
def announcements : List Announcement :=
  [⟨"counter", Sample.requestsName, "count", "Total number of attempts sent to a server"⟩,
    ⟨"histogram", Sample.durationName, "seconds", "Attempt duration in seconds"⟩,
    ⟨"counter", Sample.errorsName, "count", "Total number of failed attempts by type"⟩,
    ⟨"counter", Sample.retriesName, "count", "Total number of retries"⟩,
    ⟨"counter", Sample.fallbacksName, "count", "Total number of fallback invocations"⟩]

end ServiceCall
