import Mathlib.Data.List.Induction
import ServiceCall.Call.Executor
import ServiceCall.Proofs.Duration

/-!
The timeouts that a call ends up with, and the longest time they leave to one attempt. Each timeout
is that of the override or else that of the client, and their sum is exact however long they are.
-/

namespace ServiceCall

namespace TimeoutOverride

/-- One timeout that an override sets. -/
inductive Setting where
  | connect (millis : UInt64)
  | read (millis : UInt64)

/-- The connect timeout that is set, if it is this one. -/
def Setting.connect? : Setting → Option UInt64
  | .connect millis => some millis
  | .read _ => none

/-- The read timeout that is set, if it is this one. -/
def Setting.read? : Setting → Option UInt64
  | .connect _ => none
  | .read millis => some millis

/-- The override with one more timeout set. -/
def set (override : TimeoutOverride) : Setting → TimeoutOverride
  | .connect millis => override.withConnect millis
  | .read millis => override.withRead millis

/-- The override that is built by some settings, one after another. -/
def ofSettings (settings : List Setting) : TimeoutOverride :=
  settings.foldl set {}

/-- Of several settings of one timeout the last one counts, wherever the others stand. -/
theorem ofSettings_eq (settings : List Setting) :
    ofSettings settings =
      { connectMillis := (settings.filterMap Setting.connect?).getLast?
        readMillis := (settings.filterMap Setting.read?).getLast? } := by
  -- The induction is on the settings that come before the last one.
  induction settings using List.reverseRecOn with
  | nil => rfl
  | append_singleton earlier last ih =>
    have built : ofSettings (earlier ++ [last]) = (ofSettings earlier).set last := by
      simp [ofSettings]
    rw [built, ih]
    cases last with
    | connect millis => simp [set, withConnect, Setting.connect?, Setting.read?]
    | read millis => simp [set, withRead, Setting.connect?, Setting.read?]

end TimeoutOverride

namespace Timeouts

/-- The whole seconds of both timeouts with what is carried over from their nanoseconds. -/
theorem seconds_eq (timeouts : Timeouts) :
    timeouts.connect.secs.toNat + timeouts.read.secs.toNat +
        (timeouts.connect.nanos + timeouts.read.nanos) / nanosPerSecond =
      (timeouts.connectMillis.toNat + timeouts.readMillis.toNat) / 1000 := by
  -- The milliseconds beyond whole seconds of both give one second more exactly if they reach one.
  simp only [connect, read, Duration.secs_ofMillis, Duration.nanos_ofMillis, nanosPerSecond]
  omega

/-- The sum of both timeouts stays far below the seconds that a span can hold. -/
theorem seconds_lt (timeouts : Timeouts) :
    timeouts.connect.secs.toNat + timeouts.read.secs.toNat +
        (timeouts.connect.nanos + timeouts.read.nanos) / nanosPerSecond < 2 ^ 64 := by
  have connect : timeouts.connectMillis.toNat < 2 ^ 64 := timeouts.connectMillis.toNat_lt
  have read : timeouts.readMillis.toNat < 2 ^ 64 := timeouts.readMillis.toNat_lt
  -- Two numbers below 2^64 are divided by a thousand together.
  rw [timeouts.seconds_eq]
  omega

/-- The checked sum of both timeouts exists and is the total. -/
theorem add?_connect_read (timeouts : Timeouts) :
    Duration.add? timeouts.connect timeouts.read = some timeouts.total := by
  -- The sum is refused only if its seconds overflow, which they do not.
  rw [Duration.add?, Duration.ofParts?_eq, if_pos timeouts.seconds_lt]
  rfl

/-- The total has the whole seconds of all milliseconds together. -/
theorem secs_total (timeouts : Timeouts) :
    timeouts.total.secs.toNat =
      (timeouts.connectMillis.toNat + timeouts.readMillis.toNat) / 1000 := by
  rw [← timeouts.seconds_eq]
  -- The seconds fit, so that they are kept as they are.
  exact UInt64.toNat_ofNat_of_lt timeouts.seconds_lt

/-- The total has the milliseconds beyond whole seconds as nanoseconds. -/
theorem nanos_total (timeouts : Timeouts) :
    timeouts.total.nanos =
      (timeouts.connectMillis.toNat + timeouts.readMillis.toNat) % 1000 * 1000000 := by
  have sum : timeouts.total.nanos =
      (timeouts.connect.nanos + timeouts.read.nanos) % nanosPerSecond := rfl
  -- A nanosecond remainder of whole milliseconds is a remainder of milliseconds.
  simp only [sum, connect, read, Duration.nanos_ofMillis, nanosPerSecond]
  omega

/-- The total is exactly as long as both timeouts together. -/
theorem toNanos_total (timeouts : Timeouts) :
    timeouts.total.toNanos =
      (timeouts.connectMillis.toNat + timeouts.readMillis.toNat) * 1000000 := by
  rw [Duration.toNanos, secs_total, nanos_total]
  -- Quotient and remainder by a thousand make up the milliseconds again.
  simp only [nanosPerSecond]
  omega

/-- Longer timeouts have no shorter total. -/
theorem toNanos_total_le {timeouts longer : Timeouts}
    (connect : timeouts.connectMillis ≤ longer.connectMillis)
    (read : timeouts.readMillis ≤ longer.readMillis) :
    timeouts.total.toNanos ≤ longer.total.toNanos := by
  -- Both totals are told by their milliseconds, which are added without any bound.
  have connects := UInt64.le_iff_toNat_le.mp connect
  have reads := UInt64.le_iff_toNat_le.mp read
  rw [toNanos_total, toNanos_total]
  omega

end Timeouts

/--
The timeouts of a call are exact. Each is that of the override if it has one and else that of the
client, whatever the other one is and in whatever order an override was built; their total is the
checked sum, which never overflows and is the sum of the milliseconds without any bound, and no
longer timeout makes it shorter.
-/
theorem Executor.effectiveTimeouts_exact {σ τ : Type} (executor : Executor σ τ) :
    let defaults := executor.config.timeouts
    executor.effectiveTimeouts none = defaults ∧
    (∀ override : TimeoutOverride, executor.effectiveTimeouts (some override) =
      { connectMillis := override.connectMillis.getD defaults.connectMillis
        readMillis := override.readMillis.getD defaults.readMillis }) ∧
    (∀ connect read, (TimeoutOverride.ofConnect connect).withRead read =
      (TimeoutOverride.ofRead read).withConnect connect) ∧
    (∀ settings, executor.effectiveTimeouts (some (.ofSettings settings)) =
      { connectMillis := (settings.filterMap TimeoutOverride.Setting.connect?).getLast?.getD
          defaults.connectMillis
        readMillis := (settings.filterMap TimeoutOverride.Setting.read?).getLast?.getD
          defaults.readMillis }) ∧
    ∀ override,
      let effective := executor.effectiveTimeouts override
      let millis := effective.connectMillis.toNat + effective.readMillis.toNat
      Duration.add? effective.connect effective.read = some effective.total ∧
      effective.total.secs.toNat = millis / 1000 ∧
      effective.total.nanos = millis % 1000 * 1000000 ∧
      effective.total.toNanos = millis * 1000000 ∧
      ∀ longer : Timeouts, effective.connectMillis ≤ longer.connectMillis →
        effective.readMillis ≤ longer.readMillis →
          effective.total.toNanos ≤ longer.total.toNanos := by
  intro defaults
  refine ⟨rfl, fun override => rfl, ?_, ?_, ?_⟩
  · intro connect read
    -- Both are built by setting each timeout once.
    have first := TimeoutOverride.ofSettings_eq [.connect connect, .read read]
    have second := TimeoutOverride.ofSettings_eq [.read read, .connect connect]
    exact first.trans second.symm
  · -- The override has the last setting of each timeout, and the client has the others.
    intro settings
    rw [TimeoutOverride.ofSettings_eq]
    rfl
  · -- However the timeouts were found, their sum is the one of two spans of milliseconds.
    intro override effective millis
    refine ⟨effective.add?_connect_read, effective.secs_total, effective.nanos_total,
      effective.toNanos_total, ?_⟩
    intro longer connect read
    exact Timeouts.toNanos_total_le connect read

/-- The longest timeouts together last longer than 2^64 milliseconds. -/
example : (Timeouts.mk 18446744073709551615 18446744073709551615).total =
    ⟨36893488147419103, 230000000, by decide⟩ := by
  decide +kernel

end ServiceCall
