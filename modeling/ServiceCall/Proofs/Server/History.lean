import Mathlib.Data.List.Infix
import Mathlib.Order.Bounds.Basic
import ServiceCall.Server.Tracker

/-!
What a tracker knows after any history of its server. The totals count what has ended, the window
holds the latest successes, and the attempts in flight are the most by which the starts exceed the
ends in a last part of the history, since an end without a start counts for nothing.
-/

namespace ServiceCall.Tracker

/-- What a tracker is told of its server. -/
inductive Event where
  | started
  | ended (elapsed : Duration) (success : Bool)
  | released
  | marked (alive : Bool)
  deriving DecidableEq

namespace Event

/-- Whether an event is the result of an attempt. -/
def isResult : Event → Bool
  | .ended _ _ => true
  | .started | .released | .marked _ => false

/-- Whether an event is the failure of an attempt. -/
def isFailure : Event → Bool
  | .ended _ success => !success
  | .started | .released | .marked _ => false

/-- The time that an attempt took, if an event is the success of one. -/
def success? : Event → Option Duration
  | .ended elapsed true => some elapsed
  | .ended _ false | .started | .released | .marked _ => none

/-- The attempts in flight after an event, by those before; there are never less than none. -/
def inFlight (before : Nat) : Event → Nat
  | .started => before + 1
  | .ended _ _ | .released => before - 1
  | .marked _ => before

end Event

/-- Tells a tracker of one event. -/
def observe (tracker : Tracker) : Event → Tracker
  | .started => tracker.start
  | .ended elapsed success => tracker.finish elapsed success
  | .released => tracker.release
  | .marked alive => { tracker with alive }

/-- Tells a tracker of some events, one after another. -/
def observeAll (tracker : Tracker) (events : List Event) : Tracker :=
  events.foldl observe tracker

/-- The times of the successes among some events, in their order. -/
def successTimes (events : List Event) : List Duration :=
  events.filterMap Event.success?

/-- The latest of some times, as many as the window holds. -/
def latest (times : List Duration) : List Duration :=
  times.drop (times.length - window)

/-- The number of events that end an attempt, as its result or as a release. -/
def ends (events : List Event) : Nat :=
  events.countP Event.isResult + events.count .released

variable {tracker : Tracker}

/-- The window holds a last part of the times. -/
theorem latest_suffix (times : List Duration) : latest times <:+ times :=
  List.drop_suffix _ times

/-- The window is full as soon as there are enough times. -/
theorem length_latest (times : List Duration) : (latest times).length = min 10 times.length := by
  -- What is dropped is what is too much for the window.
  rw [latest, List.length_drop, window]
  omega

/-- What left the window before does not come back into it. -/
theorem latest_append (times more : List Duration) :
    latest (latest times ++ more) = latest (times ++ more) := by
  -- Both are last parts of all the times, and they are of the same length.
  have whole : latest times ++ more <:+ times ++ more := by
    obtain ⟨old, split⟩ := latest_suffix times
    exact ⟨old, by rw [← List.append_assoc, split]⟩
  have left : latest (latest times ++ more) <:+ times ++ more := (latest_suffix _).trans whole
  have right : latest (times ++ more) <:+ times ++ more := latest_suffix _
  have lengths : (latest (latest times ++ more)).length = (latest (times ++ more)).length := by
    simp only [length_latest, List.length_append]
    omega
  exact (List.suffix_of_suffix_length_le left right (Nat.le_of_eq lengths)).eq_of_length lengths

/-- A window of the latest times loses its oldest one exactly when it is full. -/
theorem pushTime_latest (past : List Duration) (elapsed : Duration) :
    pushTime (latest past) elapsed = latest (past ++ [elapsed]) := by
  -- What the window keeps of its own times and the new one, it keeps of all times.
  have cut : latest (past ++ [elapsed]) =
      (latest past ++ [elapsed]).drop ((latest past ++ [elapsed]).length - window) :=
    (latest_append past [elapsed]).symm
  have held : (latest past).length ≤ 10 := by
    rw [length_latest]
    exact Nat.min_le_left _ _
  have pushed : (latest past ++ [elapsed]).length = (latest past).length + 1 := by simp
  have size : window = 10 := rfl
  by_cases exceeded : window < (latest past ++ [elapsed]).length
  · -- One time too many is one time to drop.
    have one : (latest past ++ [elapsed]).length - window = 1 := by omega
    rw [cut, one, List.drop_one]
    exact if_pos exceeded
  · -- There is room for one more time, so that none is dropped.
    have none : (latest past ++ [elapsed]).length - window = 0 := by omega
    rw [cut, none, List.drop_zero]
    exact if_neg exceeded

/-- A result is one more attempt that ended, and nothing else is. -/
theorem requests_observe (tracker : Tracker) (event : Event) :
    (tracker.observe event).requests = tracker.requests + if event.isResult then 1 else 0 := by
  cases event with
  -- A failure is counted as a success is; the two differ in what else they change.
  | ended elapsed success => cases success <;> rfl
  | started | released | marked alive => rfl

/-- A failure is one more of them, and nothing else is. -/
theorem errors_observe (tracker : Tracker) (event : Event) :
    (tracker.observe event).errors = tracker.errors + if event.isFailure then 1 else 0 := by
  -- Only a result without success touches the errors.
  cases event with
  | ended elapsed success => cases success <;> rfl
  | started | released | marked alive => rfl

/-- Starts and ends change the number of attempts in flight. -/
theorem active_observe (tracker : Tracker) (event : Event) :
    (tracker.observe event).active = event.inFlight tracker.active := by
  -- A success and a failure both take one attempt out of flight.
  cases event with
  | ended elapsed success => cases success <;> rfl
  | started | released | marked alive => rfl

/-- A success moves the window by one, and everything else leaves it where it was. -/
theorem responseTimes_observe {past : List Duration} (known : tracker.responseTimes = latest past)
    (event : Event) :
    (tracker.observe event).responseTimes = latest (past ++ event.success?.toList) := by
  cases event with
  | ended elapsed success =>
    cases success with
    | false => exact known.trans (congrArg latest (List.append_nil past).symm)
    | true =>
      -- The time is put behind the window and not behind all times; the latest ones are the same.
      show pushTime tracker.responseTimes elapsed = latest (past ++ [elapsed])
      rw [known, pushTime_latest]
  | started | released | marked alive =>
    exact known.trans (congrArg latest (List.append_nil past).symm)

/-- A total that rises by one with each event of a kind counts the events of that kind. -/
theorem total_observeAll {total : Tracker → Nat} {kind : Event → Bool}
    (rises : ∀ tracker event,
      total (observe tracker event) = total tracker + if kind event then 1 else 0)
    (tracker : Tracker) (events : List Event) :
    total (tracker.observeAll events) = total tracker + events.countP kind := by
  -- The induction is on the events, of which the first one is counted before the rest.
  induction events generalizing tracker with
  | nil => rfl
  | cons event rest ih =>
    rw [List.countP_cons]
    refine (ih (tracker.observe event)).trans ?_
    rw [rises]
    omega

/-- The attempts in flight are counted by the starts and ends alone. -/
theorem active_observeAll (tracker : Tracker) (events : List Event) :
    (tracker.observeAll events).active = events.foldl Event.inFlight tracker.active := by
  -- The induction is on the events, each of which moves the counter by itself.
  induction events generalizing tracker with
  | nil => rfl
  | cons event rest ih =>
    refine (ih (tracker.observe event)).trans ?_
    rw [active_observe]
    rfl

/-- The window holds the latest of all successes. -/
theorem responseTimes_observeAll {past : List Duration}
    (known : tracker.responseTimes = latest past) (events : List Event) :
    (tracker.observeAll events).responseTimes = latest (past ++ successTimes events) := by
  -- The induction is on the events; the successes so far become part of the past.
  induction events generalizing tracker past with
  | nil => exact known.trans (congrArg latest (List.append_nil past).symm)
  | cons event rest ih =>
    have split : successTimes (event :: rest) = event.success?.toList ++ successTimes rest := by
      unfold successTimes
      cases found : event.success? with
      | none => rw [List.filterMap_cons_none found]; rfl
      | some elapsed => rw [List.filterMap_cons_some found]; rfl
    rw [split, ← List.append_assoc]
    exact ih (responseTimes_observe known event)

/-- From the start, the window holds the latest of all successes. -/
theorem responseTimes_ofServer (server : Server) (events : List Event) :
    ((ofServer server).observeAll events).responseTimes = latest (successTimes events) :=
  @responseTimes_observeAll (ofServer server) [] rfl events

/-- The window never holds more than ten times. -/
theorem length_responseTimes_le (server : Server) (events : List Event) :
    ((ofServer server).observeAll events).responseTimes.length ≤ 10 := by
  -- The window is as long as it may be, or as the successes are many.
  rw [responseTimes_ofServer, length_latest]
  exact Nat.min_le_left _ _

/-- The ends are counted event by event. -/
theorem ends_append (early late : List Event) : ends (early ++ late) = ends early + ends late := by
  -- Results and releases are counted apart, and both counts add up.
  unfold ends
  rw [List.countP_append, List.count_append]
  omega

/-- An event moves the counter by its starts and ends, unless it ends what has not started. -/
theorem inFlight_step (before : Nat) (event : Event) :
    event.inFlight before + ends [event] = before + [event].count .started ∨
      before = 0 ∧ event.inFlight before = 0 ∧ [event].count .started = 0 := by
  cases event with
  | started => exact .inl rfl
  | marked alive => exact .inl rfl
  | ended elapsed success | released =>
    -- Without any attempt in flight, there is none to be taken away.
    cases before with
    | zero => exact .inr ⟨rfl, rfl, rfl⟩
    | succ before => exact .inl rfl

/-- The counter never falls behind the starts by more than the ends. -/
theorem le_inFlight (before : Nat) (events : List Event) :
    before + events.count .started ≤ events.foldl Event.inFlight before + ends events := by
  -- The induction is on the events, each of which is taken as a history of its own.
  induction events generalizing before with
  | nil => exact Nat.le_refl _
  | cons event rest ih =>
    have later := ih (event.inFlight before)
    rw [← List.singleton_append, List.count_append, ends_append, List.singleton_append,
      List.foldl_cons]
    -- An end that counts for nothing only takes from what has to be reached.
    rcases inFlight_step before event with moved | ⟨empty, same, unstarted⟩
    · omega
    · omega

/-- What is in flight was so before or has started in a last part of the events. -/
theorem inFlight_attained (before : Nat) (events : List Event) :
    events.foldl Event.inFlight before + ends events = before + events.count .started ∨
      ∃ tail, tail <:+ events ∧
        events.foldl Event.inFlight before + ends tail = tail.count .started := by
  -- The induction is on the events; the part begins after the last end that counted for nothing.
  induction events generalizing before with
  | nil => exact .inl rfl
  | cons event rest ih =>
    rw [List.foldl_cons]
    rcases ih (event.inFlight before) with whole | ⟨tail, last, balance⟩
    · rcases inFlight_step before event with moved | ⟨empty, same, unstarted⟩
      · -- All that comes after has been counted, and so has this event.
        refine .inl ?_
        rw [← List.singleton_append, List.count_append, ends_append]
        omega
      · -- This event was such an end, so the part begins right after it, with none in flight.
        exact .inr ⟨rest, List.suffix_cons event rest, by omega⟩
    · -- A later end counted for nothing, and the part is the one that begins after that.
      exact .inr ⟨tail, last.trans (List.suffix_cons event rest), balance⟩

/-- From nothing, the counter is the largest surplus of starts in a last part of the events. -/
theorem isGreatest_inFlight (events : List Event) :
    IsGreatest {surplus | ∃ tail, tail <:+ events ∧ surplus + ends tail = tail.count .started}
      (events.foldl Event.inFlight 0) := by
  constructor
  · -- The surplus is attained by all events, or by a last part of them.
    rcases inFlight_attained 0 events with whole | attained
    · exact ⟨events, List.suffix_rfl, by omega⟩
    · exact attained
  · -- In any last part, the counter goes up from what it was to begin with.
    rintro surplus ⟨tail, ⟨head, rfl⟩, balance⟩
    have least := le_inFlight (head.foldl Event.inFlight 0) tail
    rw [List.foldl_append]
    omega

/-- As long as no attempt ends that has not started, all starts and ends are counted. -/
theorem inFlight_of_balanced {events : List Event}
    (balanced : ∀ head, head <+: events → ends head ≤ head.count .started) :
    events.foldl Event.inFlight 0 + ends events = events.count .started := by
  obtain ⟨⟨tail, ⟨head, rfl⟩, balance⟩, -⟩ := isGreatest_inFlight events
  have least := le_inFlight 0 (head ++ tail)
  -- What comes before the last part has no more ends than starts, so it adds up with the rest.
  have covered := balanced head (List.prefix_append head tail)
  rw [ends_append, List.count_append] at least ⊢
  omega

/--
A tracker after any history of its server. It has counted the results and the failures among them;
its window holds the times of the latest successes, ten at most and the oldest first; and its
attempts in flight are those of a counter that rises with each start and falls with each result or
release, but not below zero. So they are the largest surplus of starts in a last part of the
history, and all the starts without the ends if no attempt ended before it started.
-/
theorem observeAll_counts (server : Server) (events : List Event) :
    let tracker := (ofServer server).observeAll events
    tracker.requests = events.countP Event.isResult ∧
    tracker.errors = events.countP Event.isFailure ∧
    tracker.errors ≤ tracker.requests ∧
    tracker.responseTimes <:+ successTimes events ∧
    tracker.responseTimes.length = min 10 (successTimes events).length ∧
    tracker.active = events.foldl Event.inFlight 0 ∧
    IsGreatest {surplus | ∃ tail, tail <:+ events ∧ surplus + ends tail = tail.count .started}
      tracker.active ∧
    ((∀ head, head <+: events → ends head ≤ head.count .started) →
      tracker.active + ends events = events.count .started) := by
  intro tracker
  have requests : tracker.requests = events.countP Event.isResult :=
    (total_observeAll requests_observe _ events).trans (Nat.zero_add _)
  have errors : tracker.errors = events.countP Event.isFailure :=
    (total_observeAll errors_observe _ events).trans (Nat.zero_add _)
  have times : tracker.responseTimes = latest (successTimes events) :=
    responseTimes_ofServer server events
  have active : tracker.active = events.foldl Event.inFlight 0 := active_observeAll _ events
  refine ⟨requests, errors, ?_, ?_, ?_, active, ?_, ?_⟩
  · -- A failure is a result.
    rw [requests, errors]
    refine List.countP_mono_left fun event _ failed => ?_
    cases event with
    | ended elapsed success => rfl
    | started | released | marked alive => cases failed
  · -- The window holds a last part of the successes.
    rw [times]
    exact latest_suffix _
  · rw [times, length_latest]
  · -- The counter starts from nothing.
    rw [active]
    exact isGreatest_inFlight events
  · rw [active]
    exact inFlight_of_balanced

end ServiceCall.Tracker
