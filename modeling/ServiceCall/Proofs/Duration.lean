import Mathlib.Algebra.Order.Ring.Nat
import ServiceCall.Duration

/-!
Sums and shares of spans by their exact length. Seconds and nanoseconds are added and divided apart,
and the carry between them loses nothing.
-/

namespace ServiceCall.Duration

/-- A span is the one of its parts, as long as its seconds fit. -/
theorem ofParts?_eq (secs nanos : Nat) :
    ofParts? secs nanos =
      if secs + nanos / nanosPerSecond < 2 ^ 64 then some (ofParts secs nanos) else none :=
  rfl

/-- A span of parts whose seconds fit has their whole length. -/
theorem toNanos_ofParts {secs nanos : Nat} (fits : secs + nanos / nanosPerSecond < 2 ^ 64) :
    (ofParts secs nanos).toNanos = secs * nanosPerSecond + nanos := by
  have carried : (ofParts secs nanos).secs.toNat = secs + nanos / nanosPerSecond :=
    UInt64.toNat_ofNat_of_lt fits
  have left : (ofParts secs nanos).nanos = nanos % nanosPerSecond := rfl
  -- What is carried over and what is left are the nanoseconds that were there.
  rw [toNanos, carried, left, Nat.add_mul, Nat.add_assoc, Nat.div_add_mod']

/-- Parts make no span exactly if together they are 2^64 seconds long or longer. -/
theorem ofParts?_eq_none_iff {secs nanos : Nat} :
    ofParts? secs nanos = none ↔ 2 ^ 64 * nanosPerSecond ≤ secs * nanosPerSecond + nanos := by
  -- The seconds with the carry are the whole length in seconds, rounded down.
  have whole : secs + nanos / nanosPerSecond =
      (secs * nanosPerSecond + nanos) / nanosPerSecond := by
    rw [Nat.mul_comm secs, Nat.mul_add_div (by decide)]
  rw [ofParts?_eq, whole, ← Nat.le_div_iff_mul_le (by decide)]
  split
  · rename_i fits
    exact iff_of_false (by simp) (Nat.not_le.mpr fits)
  · rename_i long
    exact iff_of_true rfl (Nat.not_lt.mp long)

/-- A span that could be made has the whole length of its parts. -/
theorem toNanos_of_ofParts? {secs nanos : Nat} {d : Duration}
    (made : ofParts? secs nanos = some d) : d.toNanos = secs * nanosPerSecond + nanos := by
  -- The parts were not refused, so their seconds fit.
  rw [ofParts?_eq] at made
  split at made
  · rename_i fits
    obtain rfl := Option.some.inj made
    exact toNanos_ofParts fits
  · cases made

/-- Seconds and nanoseconds that are added apart make up the sum of the lengths. -/
theorem sumParts_eq (spans : List Duration) :
    (sumParts spans).1 * nanosPerSecond + (sumParts spans).2 = (spans.map toNanos).sum := by
  -- The induction is on the spans, whose seconds and nanoseconds go to the two sums.
  induction spans with
  | nil => rfl
  | cons d rest ih =>
    rw [sumParts, List.map_cons, List.sum_cons, ← ih, toNanos, Nat.add_mul,
      Nat.add_add_add_comm]

/-- Spans have no sum exactly if together they are 2^64 seconds long or longer. -/
theorem sum?_eq_none_iff {spans : List Duration} :
    sum? spans = none ↔ 2 ^ 64 * nanosPerSecond ≤ (spans.map toNanos).sum := by
  rw [sum?, ofParts?_eq_none_iff, sumParts_eq]

/-- The sum of spans is as long as they are together. -/
theorem toNanos_of_sum? {spans : List Duration} {total : Duration}
    (added : sum? spans = some total) : total.toNanos = (spans.map toNanos).sum := by
  rw [toNanos_of_ofParts? added, sumParts_eq]

/-- A span of milliseconds has the whole seconds among them. -/
theorem secs_ofMillis (millis : UInt64) : (ofMillis millis).secs.toNat = millis.toNat / 1000 := by
  have bound : millis.toNat < 2 ^ 64 := millis.toNat_lt
  have whole : (ofMillis millis).secs =
      UInt64.ofNat (millis.toNat / 1000 + millis.toNat % 1000 * 1000000 / nanosPerSecond) := rfl
  -- What is left of the milliseconds stays below one second, so that nothing is carried over.
  have carry : millis.toNat % 1000 * 1000000 / nanosPerSecond = 0 := by
    simp only [nanosPerSecond]
    omega
  rw [whole, carry, Nat.add_zero]
  exact UInt64.toNat_ofNat_of_lt (Nat.lt_of_le_of_lt (Nat.div_le_self _ _) bound)

/-- A span of milliseconds has the ones beyond whole seconds as nanoseconds. -/
theorem nanos_ofMillis (millis : UInt64) :
    (ofMillis millis).nanos = millis.toNat % 1000 * 1000000 := by
  -- Less than a second of milliseconds is left over, so nothing is carried.
  have below : millis.toNat % 1000 * 1000000 < nanosPerSecond := by
    simp only [nanosPerSecond]
    omega
  exact Nat.mod_eq_of_lt below

/-- A share is the exact length divided by the number of shares and rounded down. -/
theorem toNanos_share (d : Duration) {count : Nat} (positive : 0 < count) :
    (d.share count).toNanos = d.toNanos / count := by
  -- The seconds left over are fewer than the shares, so they come to less than one second each.
  have left : d.secs.toNat % count < count := Nat.mod_lt _ positive
  -- What is left of the seconds is divided together with the nanoseconds.
  have nanos : d.nanos / count + (d.secs.toNat % count * nanosPerSecond + d.nanos % count) / count =
      (d.secs.toNat % count * nanosPerSecond + d.nanos) / count := by
    conv_rhs => rw [← Nat.div_add_mod d.nanos count]
    rw [Nat.add_left_comm, Nat.mul_add_div positive]
  have below : (d.secs.toNat % count * nanosPerSecond + d.nanos) / count < nanosPerSecond := by
    rw [Nat.div_lt_iff_lt_mul positive]
    calc d.secs.toNat % count * nanosPerSecond + d.nanos
      _ < d.secs.toNat % count * nanosPerSecond + nanosPerSecond :=
        Nat.add_lt_add_left d.nanos_lt _
      _ = (d.secs.toNat % count + 1) * nanosPerSecond := (Nat.succ_mul _ _).symm
      _ ≤ count * nanosPerSecond := Nat.mul_le_mul_right _ left
      _ = nanosPerSecond * count := Nat.mul_comm _ _
  -- The carry is zero, and no share has more seconds than the whole.
  have fits : d.secs.toNat / count +
      (d.secs.toNat % count * nanosPerSecond + d.nanos) / count / nanosPerSecond < 2 ^ 64 := by
    rw [Nat.div_eq_of_lt below, Nat.add_zero]
    exact Nat.lt_of_le_of_lt (Nat.div_le_self _ count) d.secs.toNat_lt
  rw [share, nanos, toNanos_ofParts fits, toNanos]
  -- The shares of whole seconds can be taken out of the division.
  conv_rhs => rw [← Nat.div_add_mod d.secs.toNat count]
  rw [Nat.add_mul, Nat.mul_assoc, Nat.add_assoc, Nat.mul_add_div positive]

end ServiceCall.Duration
