/-!
Spans of time in whole seconds and nanoseconds, with the sums, quotients and wording used for
timeouts and response times.
-/

namespace ServiceCall

/-- Nanoseconds in one second. -/
abbrev nanosPerSecond : Nat := 1000000000

/-- A span of time: whole seconds below 2^64 and the nanoseconds below one second. -/
structure Duration where
  secs : UInt64
  nanos : Nat
  nanos_lt : nanos < nanosPerSecond
  deriving DecidableEq, Repr

namespace Duration

/-- The empty span. -/
def zero : Duration := ⟨0, 0, by decide⟩

instance : Inhabited Duration := ⟨zero⟩

/-- The exact length in nanoseconds. -/
def toNanos (d : Duration) : Nat :=
  d.secs.toNat * nanosPerSecond + d.nanos

/-- The span of some seconds and nanoseconds, if the seconds still fit after the carry. -/
def ofParts? (secs nanos : Nat) : Option Duration :=
  let whole := secs + nanos / nanosPerSecond
  if whole < UInt64.size then
    some ⟨UInt64.ofNat whole, nanos % nanosPerSecond, Nat.mod_lt _ (by decide)⟩
  else none

/-- The span of some seconds and nanoseconds; the seconds wrap once they pass 2^64. -/
def ofParts (secs nanos : Nat) : Duration :=
  ⟨UInt64.ofNat (secs + nanos / nanosPerSecond), nanos % nanosPerSecond, Nat.mod_lt _ (by decide)⟩

/-- The span of some milliseconds. -/
def ofMillis (millis : UInt64) : Duration :=
  ofParts (millis.toNat / 1000) (millis.toNat % 1000 * 1000000)

/-- The sum of two spans, if its seconds still fit. -/
def add? (left right : Duration) : Option Duration :=
  ofParts? (left.secs.toNat + right.secs.toNat) (left.nanos + right.nanos)

/-- The seconds and the nanoseconds of a list of spans, added apart. -/
def sumParts : List Duration → Nat × Nat
  | [] => (0, 0)
  | d :: rest => (d.secs.toNat + (sumParts rest).1, d.nanos + (sumParts rest).2)

/--
The sum of a list of spans, if its seconds still fit. The nanoseconds are carried over once, after
everything has been added.
-/
def sum? (spans : List Duration) : Option Duration :=
  ofParts? (sumParts spans).1 (sumParts spans).2

/--
The part of a span that falls to one of several equal shares, rounded down to the nanosecond. What
is left of the seconds is shared out again as nanoseconds.
-/
def share (d : Duration) (count : Nat) : Duration :=
  ofParts (d.secs.toNat / count)
    (d.nanos / count + (d.secs.toNat % count * nanosPerSecond + d.nanos % count) / count)

/-- The digits of a fraction of a given width, without the zeros at its end. -/
def fractionDigits (width value : Nat) : List Char :=
  let digits := Nat.toDigits 10 value
  let padded := List.replicate (width - digits.length) '0' ++ digits
  (padded.reverse.dropWhile (· == '0')).reverse

/-- A number with a fraction of a given width, the point being left out when nothing follows it. -/
def decimalText (whole fraction width : Nat) : String :=
  match fractionDigits width fraction with
  | [] => toString whole
  | digits => toString whole ++ "." ++ String.ofList digits

/-- The shortest exact wording, in the largest unit of which the span holds at least one. -/
def text (d : Duration) : String :=
  if 0 < d.secs.toNat then decimalText d.secs.toNat d.nanos 9 ++ "s"
  else if 1000000 ≤ d.nanos then decimalText (d.nanos / 1000000) (d.nanos % 1000000) 6 ++ "ms"
  else if 1000 ≤ d.nanos then decimalText (d.nanos / 1000) (d.nanos % 1000) 3 ++ "µs"
  else toString d.nanos ++ "ns"

end Duration

end ServiceCall
