import Mathlib.Algebra.Order.BigOperators.Group.List
import Mathlib.Data.Finset.Max
import ServiceCall.Proofs.Duration
import ServiceCall.Proofs.Server.History

/-!
The average response time of a server. It is the exact mean of the times in the window, rounded down
to the nanosecond, and it fails only when these are too long to be added up.
-/

namespace ServiceCall.Tracker

variable {tracker : Tracker}

/-- The average fails exactly if the times together are 2^64 seconds long or longer. -/
theorem averageTime_error_iff :
    tracker.averageTime = .error .durationOverflow ↔
      2 ^ 64 * nanosPerSecond ≤ (tracker.responseTimes.map Duration.toNanos).sum := by
  rw [← Duration.sum?_eq_none_iff, averageTime]
  cases times : tracker.responseTimes with
  -- Without any times, there is neither a sum to fail nor a length to reach the bound.
  | nil => exact iff_of_false nofun nofun
  | cons first rest =>
    -- The average is taken of the sum, which is all that can fail.
    cases added : Duration.sum? (first :: rest) with
    | none => exact iff_of_true rfl rfl
    | some total => exact iff_of_false nofun nofun

/-- The only failure of the average is that of the sum. -/
theorem averageTime_ok_or_error (tracker : Tracker) :
    (∃ average, tracker.averageTime = .ok average) ∨
      tracker.averageTime = .error .durationOverflow := by
  -- Zero is returned without any times, and else the share of the sum, if there is one.
  unfold averageTime
  split
  · exact .inl ⟨_, rfl⟩
  · split
    · exact .inl ⟨_, rfl⟩
    · exact .inr rfl

/-- Where there are times, their average is the exact mean, rounded down. -/
theorem toNanos_averageTime {average : Duration} (found : tracker.averageTime = .ok average)
    (filled : tracker.responseTimes ≠ []) :
    average.toNanos = (tracker.responseTimes.map Duration.toNanos).sum /
      tracker.responseTimes.length := by
  have nonempty : ¬tracker.responseTimes.isEmpty = true := by simpa using filled
  rw [averageTime, if_neg nonempty] at found
  cases added : Duration.sum? tracker.responseTimes with
  | none =>
    rw [added] at found
    cases found
  | some total =>
    rw [added] at found
    obtain rfl := Except.ok.inj found
    -- The sum and its share are exact, so what is lost is lost in one rounding.
    rw [Duration.toNanos_share total (List.length_pos_iff.mpr filled),
      Duration.toNanos_of_sum? added]

/-- A mean of some lengths lies between the smallest and the largest of them. -/
theorem exists_bounds {times : List Duration} (filled : times ≠ []) :
    ∃ shortest ∈ times, ∃ longest ∈ times,
      (∀ time ∈ times, shortest.toNanos ≤ time.toNanos ∧ time.toNanos ≤ longest.toNanos) ∧
        shortest.toNanos ≤ (times.map Duration.toNanos).sum / times.length ∧
        (times.map Duration.toNanos).sum / times.length ≤ longest.toNanos := by
  -- The extremes are attained, since there are only so many times.
  have some : times.toFinset.Nonempty := List.toFinset_nonempty_iff times |>.mpr filled
  obtain ⟨shortest, among, least⟩ := times.toFinset.exists_min_image Duration.toNanos some
  obtain ⟨longest, also, most⟩ := times.toFinset.exists_max_image Duration.toNanos some
  simp only [List.mem_toFinset] at among also least most
  have positive : 0 < times.length := List.length_pos_iff.mpr filled
  refine ⟨shortest, among, longest, also, fun time member => ⟨least time member, most time member⟩,
    ?_, ?_⟩
  · -- As many of the smallest length are not longer than all the times.
    have below := (times.map Duration.toNanos).card_nsmul_le_sum shortest.toNanos
      (List.forall_mem_map.mpr least)
    rw [List.length_map, nsmul_eq_mul] at below
    rw [Nat.le_div_iff_mul_le positive, Nat.mul_comm]
    exact below
  · -- And as many of the largest length are not shorter.
    have above := (times.map Duration.toNanos).sum_le_card_nsmul longest.toNanos
      (List.forall_mem_map.mpr most)
    rw [List.length_map, nsmul_eq_mul] at above
    exact Nat.div_le_of_le_mul above

/-- A snapshot fails as its average does. -/
theorem stats_error_iff :
    tracker.stats = .error .durationOverflow ↔ tracker.averageTime = .error .durationOverflow := by
  -- All else in a snapshot is copied from the tracker.
  rw [stats]
  cases tracker.averageTime with
  | error fatal => exact ⟨fun same => congrArg _ (Except.error.inj same), fun same =>
      congrArg _ (Except.error.inj same)⟩
  | ok average => exact iff_of_false nofun nofun

/-- A snapshot shows the average. -/
theorem stats_of_averageTime {average : Duration} (found : tracker.averageTime = .ok average) :
    ∃ stats, tracker.stats = .ok stats ∧ stats.averageTime = average := by
  -- The average is one of the fields.
  rw [Tracker.stats, found]
  exact ⟨_, rfl, rfl⟩

/--
The average response time after any history of a server. It fails, and so does the snapshot, exactly
if the times in the window are together 2^64 seconds long or longer. Else it is their exact mean,
rounded down to the nanosecond, which lies between the shortest and the longest of them; without any
times it is zero. The number it divides by is not zero, and it fits into 32 bits.
-/
theorem averageTime_exact (server : Server) (events : List Event) :
    let tracker := (ofServer server).observeAll events
    let times := tracker.responseTimes
    let total := (times.map Duration.toNanos).sum
    (tracker.averageTime = .error .durationOverflow ↔ 2 ^ 64 * nanosPerSecond ≤ total) ∧
    (tracker.stats = .error .durationOverflow ↔ 2 ^ 64 * nanosPerSecond ≤ total) ∧
    (total < 2 ^ 64 * nanosPerSecond → ∃ average, tracker.averageTime = .ok average ∧
      (∃ stats, tracker.stats = .ok stats ∧ stats.averageTime = average) ∧
      average.nanos < nanosPerSecond ∧
      (times = [] → average = .zero) ∧
      (times ≠ [] → average.toNanos = total / times.length ∧
        ∃ shortest ∈ times, ∃ longest ∈ times,
          (∀ time ∈ times, shortest.toNanos ≤ time.toNanos ∧ time.toNanos ≤ longest.toNanos) ∧
            shortest.toNanos ≤ average.toNanos ∧ average.toNanos ≤ longest.toNanos)) ∧
    (times ≠ [] → UInt32.ofNat times.length ≠ 0 ∧
      (UInt32.ofNat times.length).toNat = times.length) := by
  intro tracker times total
  refine ⟨averageTime_error_iff, stats_error_iff.trans averageTime_error_iff, fun fits => ?_,
    fun filled => ?_⟩
  · -- There is no other failure than the one that a smaller total excludes.
    obtain ⟨average, found⟩ : ∃ average, tracker.averageTime = .ok average := by
      refine (averageTime_ok_or_error tracker).resolve_right fun failed => ?_
      exact Nat.not_le.mpr fits (averageTime_error_iff.mp failed)
    refine ⟨average, found, stats_of_averageTime found, average.nanos_lt, fun empty => ?_,
      fun filled => ?_⟩
    · -- Without any times, nothing is added or divided.
      rw [averageTime, if_pos (List.isEmpty_iff.mpr empty)] at found
      exact (Except.ok.inj found).symm
    · -- A mean of the times lies between the extremes among them.
      have mean : average.toNanos = total / times.length := toNanos_averageTime found filled
      rw [mean]
      exact ⟨rfl, exists_bounds filled⟩
  · -- The window holds ten times at most.
    have small : times.length < 2 ^ 32 :=
      Nat.lt_of_le_of_lt (length_responseTimes_le server events) (by decide)
    have kept : (UInt32.ofNat times.length).toNat = times.length :=
      UInt32.toNat_ofNat_of_lt' small
    refine ⟨fun zero => ?_, kept⟩
    rw [zero] at kept
    exact filled (List.length_eq_zero_iff.mp kept.symm)

end ServiceCall.Tracker
