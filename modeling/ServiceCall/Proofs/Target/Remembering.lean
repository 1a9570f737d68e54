import ServiceCall.Scripted.Breaker

/-!
Bound clients watched from outside. A breaker may remember what it was asked and told, and the
implementations of a client which of them ran; the calls go alike whether they do or not.
-/

namespace ServiceCall

open Scripted (BreakerEvent)

/-- In which role an implementation runs: as the primary, as a fixed fallback, or as the fallback
that a factory made for a cause. -/
inductive Role where
  | primary
  | fixedFallback
  | madeFallback (cause : CallError)
  deriving DecidableEq, Repr

/-- One run of an implementation: in which role, of which method, and how it went. -/
structure Invocation (α : Type) where
  role : Role
  method : String
  run : Run α

variable {β ω α : Type}

/-- The breaker that also remembers what it was asked and told, the latest event last. -/
def Breaker.remembering (breaker : Breaker β) : Breaker (β × List BreakerEvent) where
  allow command state :=
    let (allowed, next) := breaker.allow command state.1
    (allowed, next, state.2 ++ [if allowed then .allow command else .deny command])
  success command state := (breaker.success command state.1, state.2 ++ [.success command])
  failure command state := (breaker.failure command state.1, state.2 ++ [.failure command])

/-- The implementation that also remembers its runs in a role, the latest one last. -/
def Implementation.remembering (role : Role) (implementation : Implementation ω α) :
    Implementation (ω × List (Invocation α)) α := fun method state =>
  let (run, next) := implementation method state.1
  (run, next, state.2 ++ [⟨role, method, run⟩])

/-- The fallback whose implementations remember their runs, and the causes they were made for. -/
def Fallback.remembering : Fallback ω α → Fallback (ω × List (Invocation α)) α
  | .none => .none
  | .fixed implementation => .fixed (Implementation.remembering .fixedFallback implementation)
  | .factory create =>
    .factory fun cause => Implementation.remembering (.madeFallback cause) (create cause)

/-- The guard with a fallback that remembers. -/
def Guard.remembering : Guard ω α → Guard (ω × List (Invocation α)) α
  | .bare => .bare
  | .guarded target setters fallback => .guarded target setters fallback.remembering

/-- The client whose implementations remember their runs. -/
def BoundClient.remembering (client : BoundClient ω α) :
    BoundClient (ω × List (Invocation α)) α where
  primary := Implementation.remembering .primary client.primary
  guard := client.guard.remembering

namespace World

/-- The world with room for memories, none of which are there yet. -/
def remembering (world : World β ω) : World (β × List BreakerEvent) (ω × List (Invocation α)) where
  breaker := (world.breaker, [])
  inner := (world.inner, [])
  samples := world.samples

/-- The world without what the breaker and the implementations remember. -/
def forget (world : World (β × List BreakerEvent) (ω × List (Invocation α))) : World β ω where
  breaker := world.breaker.1
  inner := world.inner.1
  samples := world.samples

/-- A world that remembers nothing yet forgets nothing. -/
theorem forget_remembering (world : World β ω) :
    (world.remembering : World _ (ω × List (Invocation α))).forget = world :=
  rfl

end World

namespace BoundClient

/-- A refusal of the breaker is the outcome, and nothing is run. -/
theorem guardedOutcome_refused (client : BoundClient ω α) {breaker : Breaker β}
    {setter : CommandSetter} (method : String) {world : World β ω} {asked : β}
    (refused : breaker.allow setter.command world.breaker = (false, asked)) :
    client.guardedOutcome breaker setter method world =
      (.error (.circuitOpen setter.command), { world with breaker := asked }) := by
  -- The breaker is asked before anything is run.
  simp [guardedOutcome, refused]

/-- A primary that ends well in time is the outcome, and the breaker is told of a success. -/
theorem guardedOutcome_ok {client : BoundClient ω α} {breaker : Breaker β}
    {setter : CommandSetter} {method : String} {world : World β ω} {asked : β} {run : Run α}
    {inner : ω} {value : α}
    (allowed : breaker.allow setter.command world.breaker = (true, asked))
    (ran : client.primary method world.inner = (run, inner))
    (ended : limited setter.timeout run = .ok value) :
    client.guardedOutcome breaker setter method world =
      (.ok value, { world with breaker := breaker.success setter.command asked, inner }) := by
  -- The breaker is told how the run has ended within its limit, not how it ended.
  simp [guardedOutcome, allowed, ran, ended]

/-- A primary that fails, or is cut off, is the outcome, and the breaker is told of a failure. -/
theorem guardedOutcome_error {client : BoundClient ω α} {breaker : Breaker β}
    {setter : CommandSetter} {method : String} {world : World β ω} {asked : β} {run : Run α}
    {inner : ω} {cause : CallError}
    (allowed : breaker.allow setter.command world.breaker = (true, asked))
    (ran : client.primary method world.inner = (run, inner))
    (ended : limited setter.timeout run = .error cause) :
    client.guardedOutcome breaker setter method world =
      (.error cause, { world with breaker := breaker.failure setter.command asked, inner }) := by
  -- The limit can make a failure of a good outcome, and the breaker is told of that.
  simp [guardedOutcome, allowed, ran, ended]

/-- A direct client runs its primary, and that is all. -/
theorem call_bare {client : BoundClient ω α} (breaker : Breaker β) {method : String}
    {world : World β ω} {run : Run α} {inner : ω} (bare : client.guard = .bare)
    (ran : client.primary method world.inner = (run, inner)) :
    client.call breaker method world = (run.outcome, { world with inner }) := by
  -- A direct client has no breaker to ask and no fallback to turn to.
  simp [call, bare, ran]

/-- A guarded client returns a good outcome and turns to its fallback after a bad one. -/
theorem call_guarded {client : BoundClient ω α} {breaker : Breaker β} {method : String}
    {world next : World β ω} {target : Target} {setters : SetterFactory} {fallback : Fallback ω α}
    {outcome : Except CallError α} (guarded : client.guard = .guarded target setters fallback)
    (attempted : client.guardedOutcome breaker (setters target method) method world =
      (outcome, next)) :
    client.call breaker method world = match outcome with
      | .ok value => (.ok value, next)
      | .error cause =>
        recover fallback target.resolvedName (setters target method).command method cause next := by
  -- The outcome alone decides whether the fallback is asked for.
  simp only [call, guarded, attempted]
  cases outcome <;> rfl

/-- An answer of the breaker is remembered behind the earlier events. -/
theorem allow_remembering {breaker : Breaker β} {command : String}
    {state : β × List BreakerEvent} {allowed : Bool} {asked : β}
    (answered : breaker.allow command state.1 = (allowed, asked)) :
    breaker.remembering.allow command state =
      (allowed, asked, state.2 ++ [if allowed then .allow command else .deny command]) := by
  -- The answer decides which of the two events is remembered.
  simp [Breaker.remembering, answered]

/-- A run is remembered behind the earlier ones, with its role. -/
theorem implementation_remembering (role : Role) {implementation : Implementation ω α}
    {method : String} {state : ω × List (Invocation α)} {run : Run α} {inner : ω}
    (ran : implementation method state.1 = (run, inner)) :
    Implementation.remembering role implementation method state =
      (run, inner, state.2 ++ [⟨role, method, run⟩]) := by
  -- The other implementation runs in a state without the memory.
  simp [Implementation.remembering, ran]

/-- A client that remembers is guarded as before, by a fallback that remembers too. -/
theorem guard_remembering (client : BoundClient ω α) :
    client.remembering.guard = client.guard.remembering :=
  rfl

/-- The guarded part of a call goes alike whether it is remembered or not. -/
theorem guardedOutcome_remembering (client : BoundClient ω α) (breaker : Breaker β)
    (setter : CommandSetter) (method : String)
    (world : World (β × List BreakerEvent) (ω × List (Invocation α))) :
    client.guardedOutcome breaker setter method world.forget =
      ((client.remembering.guardedOutcome breaker.remembering setter method world).1,
        (client.remembering.guardedOutcome breaker.remembering setter method world).2.forget) := by
  -- The remembering breaker asks the other one, and the remembering primary runs the other one.
  cases answered : breaker.allow setter.command world.breaker.1 with
  | mk allowed asked =>
    have remembered := allow_remembering answered
    cases allowed with
    | false =>
      -- Both are refused, and only the refusal is remembered.
      rw [client.guardedOutcome_refused method answered,
        client.remembering.guardedOutcome_refused method remembered]
      rfl
    | true =>
      cases ran : client.primary method world.inner.1 with
      | mk run inner =>
        have kept := implementation_remembering .primary ran
        cases ended : limited setter.timeout run with
        | ok value =>
          rw [guardedOutcome_ok answered ran ended, guardedOutcome_ok remembered kept ended]
          rfl
        | error cause =>
          rw [guardedOutcome_error answered ran ended, guardedOutcome_error remembered kept ended]
          rfl

/-- A fallback goes alike whether it is remembered or not. -/
theorem recover_remembering (fallback : Fallback ω α) (client command method : String)
    (cause : CallError) (world : World (β × List BreakerEvent) (ω × List (Invocation α))) :
    recover fallback client command method cause world.forget =
      ((recover fallback.remembering client command method cause world).1,
        (recover fallback.remembering client command method cause world).2.forget) := by
  -- Without a fallback nothing happens, and with one the same implementation runs.
  cases fallback with
  | none => rfl
  | fixed implementation => rfl
  | factory create => rfl

/-- A call goes alike whether it is remembered or not. -/
theorem call_remembering (client : BoundClient ω α) (breaker : Breaker β) (method : String)
    (world : World (β × List BreakerEvent) (ω × List (Invocation α))) :
    client.call breaker method world.forget =
      ((client.remembering.call breaker.remembering method world).1,
        (client.remembering.call breaker.remembering method world).2.forget) := by
  cases shape : client.guard with
  | bare =>
    -- Only the primary is run.
    have bare : client.remembering.guard = .bare := by rw [guard_remembering, shape]; rfl
    cases ran : client.primary method world.inner.1 with
    | mk run inner =>
      rw [call_bare breaker shape ran,
        call_bare breaker.remembering bare (implementation_remembering .primary ran)]
      rfl
  | guarded target setters fallback =>
    have guarded : client.remembering.guard = .guarded target setters fallback.remembering := by
      rw [guard_remembering, shape]
      rfl
    have alike := client.guardedOutcome_remembering breaker (setters target method) method world
    cases attempted : client.remembering.guardedOutcome breaker.remembering
        (setters target method) method world with
    | mk outcome next =>
      rw [attempted] at alike
      rw [call_guarded shape alike, call_guarded guarded attempted]
      -- After a failure both turn to their fallback, in worlds that differ by the memories only.
      cases outcome with
      | ok value => rfl
      | error cause => exact recover_remembering _ _ _ _ _ _

end BoundClient

end ServiceCall
