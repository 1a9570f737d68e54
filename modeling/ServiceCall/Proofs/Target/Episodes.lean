import Mathlib.Data.List.Forall2
import ServiceCall.Proofs.Target.Remembering

/-!
What happens during the calls of bound clients. Each call runs its primary at most once, tells the
breaker once how a run it allowed has ended, and runs a fallback at most once; a run of many calls
is one such episode after another.
-/

namespace ServiceCall

open Scripted (BreakerEvent)

variable {β ω α : Type}

/-- A run keeps within a time limit, if there is one. -/
def Run.Keeps (run : Run α) (limit : Option Duration) : Prop :=
  ∀ span ∈ limit, run.took.toNanos ≤ span.toNanos

/--
How the primary of a guarded client fares under a command's key and time limit: the events at the
breaker, the runs, and the outcome.
-/
inductive GuardedCourse (setter : CommandSetter) (method : String) :
    List BreakerEvent → List (Invocation α) → Except CallError α → Prop
  /-- The breaker refuses, so that nothing is run and nothing is recorded. -/
  | refused : GuardedCourse setter method [.deny setter.command] []
      (.error (.circuitOpen setter.command))
  /-- The primary ends well in time, which is recorded as a success. -/
  | succeeded {run : Run α} {value : α} (inTime : run.Keeps setter.timeout)
      (ended : run.outcome = .ok value) :
      GuardedCourse setter method [.allow setter.command, .success setter.command]
        [⟨.primary, method, run⟩] (.ok value)
  /-- The primary fails in time, which is recorded as a failure. -/
  | failed {run : Run α} {cause : CallError} (inTime : run.Keeps setter.timeout)
      (ended : run.outcome = .error cause) :
      GuardedCourse setter method [.allow setter.command, .failure setter.command]
        [⟨.primary, method, run⟩] (.error cause)
  /-- The primary takes longer than the limit, which is recorded as a failure however it ends. -/
  | timedOut {run : Run α} {limit : Duration} (limited : setter.timeout = some limit)
      (late : limit.toNanos < run.took.toNanos) :
      GuardedCourse setter method [.allow setter.command, .failure setter.command]
        [⟨.primary, method, run⟩] (.error (.timeout limit))

/--
How a call ends after the outcome of its primary: the runs of fallbacks, the samples, and the result
of the call.
-/
inductive RecoveryCourse (fallback : Fallback ω α) (client command method : String) :
    Except CallError α → List (Invocation α) → Meter → Except CallError α → Prop
  /-- There is no cause to turn to a fallback. -/
  | spared {value : α} : RecoveryCourse fallback client command method (.ok value) [] [] (.ok value)
  /-- There is a cause and no fallback, so that the cause is the result. -/
  | unaided {cause : CallError} (none : fallback = .none) :
      RecoveryCourse fallback client command method (.error cause) [] [] (.error cause)
  /-- The fixed fallback runs once, and its outcome is the result. -/
  | fixed {cause : CallError} {implementation : Implementation ω α} {run : Run α}
      (bound : fallback = .fixed implementation) :
      RecoveryCourse fallback client command method (.error cause)
        [⟨.fixedFallback, method, run⟩] [.fallback client command false] run.outcome
  /-- The fallback made for just this cause runs once, and its outcome is the result. -/
  | made {cause : CallError} {create : CallError → Implementation ω α} {run : Run α}
      (bound : fallback = .factory create) :
      RecoveryCourse fallback client command method (.error cause)
        [⟨.madeFallback cause, method, run⟩] [.fallback client command true] run.outcome

/-- A call to make: of which client, and of which of its methods. -/
structure ClientCall (ω α : Type) where
  client : BoundClient ω α
  method : String

/-- What is seen of one call: the breaker's events, the runs, the samples, and the result. -/
structure Episode (α : Type) where
  events : List BreakerEvent
  invocations : List (Invocation α)
  samples : Meter
  result : Except CallError α

/-- The episodes that a call can be. -/
inductive Episode.Of (call : ClientCall ω α) : Episode α → Prop
  /-- A direct client runs its primary once, and no more. -/
  | direct {run : Run α} (bare : call.client.guard = .bare) :
      Of call ⟨[], [⟨.primary, call.method, run⟩], [], run.outcome⟩
  /-- A guarded client attempts its primary, and then recovers from its outcome. -/
  | guarded {target : Target} {setters : SetterFactory} {fallback : Fallback ω α}
      {setter : CommandSetter} {events : List BreakerEvent} {first second : List (Invocation α)}
      {samples : Meter} {outcome result : Except CallError α}
      (guarded : call.client.guard = .guarded target setters fallback)
      (chosen : setters target call.method = setter)
      (attempted : GuardedCourse setter call.method events first outcome)
      (recovered : RecoveryCourse fallback target.resolvedName setter.command call.method outcome
        second samples result) :
      Of call ⟨events, first ++ second, samples, result⟩

/-- A world that remembers has gained the memories of an episode, behind the earlier ones. -/
structure World.Gains (world : World (β × List BreakerEvent) (ω × List (Invocation α)))
    (episode : Episode α) (next : World (β × List BreakerEvent) (ω × List (Invocation α))) :
    Prop where
  events : next.breaker.2 = world.breaker.2 ++ episode.events
  invocations : next.inner.2 = world.inner.2 ++ episode.invocations
  samples : next.samples = world.samples ++ episode.samples

namespace BoundClient

/-- A run that keeps within the limit counts as it ended, and any other as timed out. -/
theorem limited_cases (limit : Option Duration) (run : Run α) :
    (run.Keeps limit ∧ limited limit run = run.outcome) ∨
      ∃ span, limit = some span ∧ span.toNanos < run.took.toNanos ∧
        limited limit run = .error (.timeout span) := by
  -- A limit is compared with the time that the run took, however it ended.
  cases limit with
  | none => exact .inl ⟨by simp [Run.Keeps], rfl⟩
  | some span =>
    rcases Nat.lt_or_ge span.toNanos run.took.toNanos with late | inTime
    · exact .inr ⟨span, rfl, late, if_pos late⟩
    · -- A run that takes exactly the limit is still in time.
      refine .inl ⟨?_, if_neg (Nat.not_lt.mpr inTime)⟩
      intro other same
      obtain rfl := Option.some.inj same
      exact inTime

/-- The guarded part of a call takes one of its courses, and leaves no samples. -/
theorem guardedOutcome_course (client : BoundClient ω α) (breaker : Breaker β)
    (setter : CommandSetter) (method : String)
    {world next : World (β × List BreakerEvent) (ω × List (Invocation α))}
    {outcome : Except CallError α}
    (attempted : client.remembering.guardedOutcome breaker.remembering setter method world =
      (outcome, next)) :
    ∃ events invocations, GuardedCourse setter method events invocations outcome ∧
      world.Gains ⟨events, invocations, [], outcome⟩ next := by
  -- The breaker answers first, and then the run decides under its limit.
  cases answered : breaker.allow setter.command world.breaker.1 with
  | mk allowed asked =>
    have remembered := allow_remembering answered
    cases allowed with
    | false =>
      -- The answer is all that is remembered of a refused call.
      rw [client.remembering.guardedOutcome_refused method remembered] at attempted
      obtain ⟨rfl, rfl⟩ := Prod.mk.inj attempted
      exact ⟨_, [], .refused, rfl, by simp, by simp⟩
    | true =>
      cases ran : client.primary method world.inner.1 with
      | mk run inner =>
        have kept := implementation_remembering .primary ran
        cases ended : limited setter.timeout run with
        | ok value =>
          -- Whatever was cut off is a failure, so that this run was in time.
          rw [guardedOutcome_ok remembered kept ended] at attempted
          obtain ⟨rfl, rfl⟩ := Prod.mk.inj attempted
          rcases limited_cases setter.timeout run with ⟨inTime, same⟩ | ⟨span, _, _, cut⟩
          · refine ⟨_, _, .succeeded inTime (same.symm.trans ended), ?_, rfl, by simp⟩
            exact List.append_assoc _ _ _
          · rw [cut] at ended
            cases ended
        | error cause =>
          rw [guardedOutcome_error remembered kept ended] at attempted
          obtain ⟨rfl, rfl⟩ := Prod.mk.inj attempted
          rcases limited_cases setter.timeout run with ⟨inTime, same⟩ | ⟨span, limit, late, cut⟩
          · refine ⟨_, _, .failed inTime (same.symm.trans ended), ?_, rfl, by simp⟩
            exact List.append_assoc _ _ _
          · -- The cause is that the run was cut off.
            obtain rfl := Except.error.inj (cut.symm.trans ended)
            refine ⟨_, _, .timedOut limit late, ?_, rfl, by simp⟩
            exact List.append_assoc _ _ _

/-- The end of a call takes one of its courses, and does not concern the breaker. -/
theorem recover_course (fallback : Fallback ω α) (client command method : String)
    (cause : CallError) {world next : World (β × List BreakerEvent) (ω × List (Invocation α))}
    {result : Except CallError α}
    (recovered : recover fallback.remembering client command method cause world = (result, next)) :
    ∃ invocations samples,
      RecoveryCourse fallback client command method (.error cause) invocations samples result ∧
        world.Gains ⟨[], invocations, samples, result⟩ next := by
  -- Each kind of fallback has its own course, and runs at most one implementation.
  cases fallback with
  | none =>
    obtain ⟨rfl, rfl⟩ := Prod.mk.inj recovered
    refine ⟨[], [], .unaided rfl, ?_⟩
    constructor <;> exact (List.append_nil _).symm
  | fixed implementation =>
    obtain ⟨rfl, rfl⟩ := Prod.mk.inj recovered
    exact ⟨_, _, .fixed rfl, (List.append_nil _).symm, rfl, rfl⟩
  | factory create =>
    obtain ⟨rfl, rfl⟩ := Prod.mk.inj recovered
    exact ⟨_, _, .made rfl, (List.append_nil _).symm, rfl, rfl⟩

/-- A call is one of its episodes, and leaves behind what the episode says. -/
theorem call_episode (call : ClientCall ω α) (breaker : Breaker β)
    {world next : World (β × List BreakerEvent) (ω × List (Invocation α))}
    {result : Except CallError α}
    (made : call.client.remembering.call breaker.remembering call.method world = (result, next)) :
    ∃ episode, Episode.Of call episode ∧ episode.result = result ∧ world.Gains episode next := by
  -- The guard of the client decides between its two kinds of episode.
  cases shape : call.client.guard with
  | bare =>
    have bare : call.client.remembering.guard = .bare := by rw [guard_remembering, shape]; rfl
    cases ran : call.client.primary call.method world.inner.1 with
    | mk run inner =>
      rw [call_bare breaker.remembering bare (implementation_remembering .primary ran)] at made
      obtain ⟨rfl, rfl⟩ := Prod.mk.inj made
      exact ⟨_, .direct shape, rfl, (List.append_nil _).symm, rfl, (List.append_nil _).symm⟩
  | guarded target setters fallback =>
    have guarded : call.client.remembering.guard =
        .guarded target setters fallback.remembering := by
      rw [guard_remembering, shape]
      rfl
    cases attempted : call.client.remembering.guardedOutcome breaker.remembering
        (setters target call.method) call.method world with
    | mk outcome tried =>
      rw [call_guarded guarded attempted] at made
      obtain ⟨events, first, course, gained⟩ :=
        call.client.guardedOutcome_course breaker _ call.method attempted
      cases outcome with
      | ok value =>
        -- A call that ends well ends with the attempt.
        obtain ⟨rfl, rfl⟩ := Prod.mk.inj made
        refine ⟨_, .guarded shape rfl course .spared, rfl, gained.events, ?_, gained.samples⟩
        rw [gained.invocations, List.append_nil]
      | error cause =>
        -- The end of the call follows the attempt, and adds nothing to the breaker's events.
        obtain ⟨second, samples, recovered, more⟩ := recover_course fallback target.resolvedName
          (setters target call.method).command call.method cause made
        refine ⟨_, .guarded shape rfl course recovered, rfl, ?_, ?_, ?_⟩
        · rw [more.events, gained.events, List.append_nil]
        · rw [more.invocations, gained.invocations, List.append_assoc]
        · rw [more.samples, gained.samples, List.append_nil]

end BoundClient

namespace ClientCall

/-- The call of a client whose implementations remember their runs. -/
def remembering (call : ClientCall ω α) : ClientCall (ω × List (Invocation α)) α where
  client := call.client.remembering
  method := call.method

/-- Makes some calls, each in the world that the one before has left. -/
def makeAll (breaker : Breaker β) :
    List (ClientCall ω α) → World β ω → List (Except CallError α) × World β ω
  | [], world => ([], world)
  | call :: rest, world =>
    let (result, next) := call.client.call breaker call.method world
    let (results, last) := makeAll breaker rest next
    (result :: results, last)

/-- Some calls go alike whether they are remembered or not. -/
theorem makeAll_remembering (breaker : Breaker β) (calls : List (ClientCall ω α))
    (world : World (β × List BreakerEvent) (ω × List (Invocation α))) :
    makeAll breaker calls world.forget =
      ((makeAll breaker.remembering (calls.map remembering) world).1,
        (makeAll breaker.remembering (calls.map remembering) world).2.forget) := by
  -- The induction is on the calls; each starts in worlds that differ by the memories only.
  induction calls generalizing world with
  | nil => rfl
  | cons call rest ih =>
    simp only [makeAll, List.map_cons, remembering, call.client.call_remembering, ih]

/-- Some calls are one episode after another. -/
theorem makeAll_gains (breaker : Breaker β) (calls : List (ClientCall ω α))
    (world : World (β × List BreakerEvent) (ω × List (Invocation α))) :
    let made := makeAll breaker.remembering (calls.map remembering) world
    ∃ episodes, List.Forall₂ Episode.Of calls episodes ∧ made.1 = episodes.map (·.result) ∧
      made.2.breaker.2 = world.breaker.2 ++ episodes.flatMap (·.events) ∧
      made.2.inner.2 = world.inner.2 ++ episodes.flatMap (·.invocations) ∧
      made.2.samples = world.samples ++ episodes.flatMap (·.samples) := by
  -- The induction is on the calls; the memories of the first one come before all others.
  induction calls generalizing world with
  | nil => exact ⟨[], .nil, by simp [makeAll]⟩
  | cons call rest ih =>
    cases first : call.client.remembering.call breaker.remembering call.method world with
    | mk result next =>
      obtain ⟨episode, allowed, same, gained⟩ := BoundClient.call_episode call breaker first
      obtain ⟨episodes, sequel, results, events, invocations, samples⟩ := ih next
      have made : makeAll breaker.remembering ((call :: rest).map remembering) world =
          (result :: (makeAll breaker.remembering (rest.map remembering) next).1,
            (makeAll breaker.remembering (rest.map remembering) next).2) := by
        simp only [List.map_cons, makeAll, remembering, first]
      rw [made]
      refine ⟨episode :: episodes, .cons allowed sequel, ?_, ?_, ?_, ?_⟩
      · rw [results, List.map_cons, same]
      · rw [events, gained.events, List.flatMap_cons, List.append_assoc]
      · rw [invocations, gained.invocations, List.flatMap_cons, List.append_assoc]
      · rw [samples, gained.samples, List.flatMap_cons, List.append_assoc]

/--
Calls of bound clients that share a breaker and a world go as they do when both are watched, and
what is seen then is one episode of each call after another and nothing else.
-/
theorem makeAll_episodes (breaker : Breaker β) (calls : List (ClientCall ω α))
    (world : World β ω) :
    let watched := makeAll breaker.remembering (calls.map remembering) world.remembering
    makeAll breaker calls world = (watched.1, watched.2.forget) ∧
      ∃ episodes, List.Forall₂ Episode.Of calls episodes ∧
        watched.1 = episodes.map (·.result) ∧
        watched.2.breaker.2 = episodes.flatMap (·.events) ∧
        watched.2.inner.2 = episodes.flatMap (·.invocations) ∧
        watched.2.samples = world.samples ++ episodes.flatMap (·.samples) := by
  intro watched
  constructor
  · -- A world without memories is the same as before once they are forgotten.
    have alike := makeAll_remembering breaker calls world.remembering
    rwa [World.forget_remembering] at alike
  · -- All memories are those of the calls, since there were none before.
    obtain ⟨episodes, allowed, results, events, invocations, samples⟩ :=
      makeAll_gains breaker calls world.remembering
    exact ⟨episodes, allowed, results, events, invocations, samples⟩

end ClientCall

end ServiceCall
