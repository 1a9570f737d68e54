import ServiceCall.Duration
import ServiceCall.Failure
import ServiceCall.Meter
import ServiceCall.Target.Basic

/-!
Bound clients. A direct client runs its primary implementation; a guarded one asks a circuit
breaker first, limits the time of the run, and turns to its fallback when there is a failure.
-/

namespace ServiceCall

/-- How one run of a method went. -/
structure Run (α : Type) where
  took : Duration
  outcome : Except CallError α

/-- An implementation of an interface by method name, over states of the world it acts in. -/
abbrev Implementation (ω α : Type) := String → ω → Run α × ω

/-- The hooks of a circuit breaker over states of some type. -/
structure Breaker (β : Type) where
  allow : String → β → Bool × β
  success : String → β → β
  failure : String → β → β

namespace Breaker

/-- The breaker that never refuses and leaves every state as it is. -/
def alwaysClosed {β : Type} : Breaker β where
  allow _ state := (true, state)
  success _ state := state
  failure _ state := state

end Breaker

/-- The keys and the time limit of one guarded method. -/
structure CommandSetter where
  group : String
  command : String
  timeout : Option Duration := none
  deriving DecidableEq, Repr

/-- The choice of keys and limits for each method of a target. -/
abbrev SetterFactory := Target → String → CommandSetter

/-- One group for each client, one command for each method, and no limit. -/
def SetterFactory.standard : SetterFactory := fun target method =>
  { group := target.name, command := target.methodKey method }

/-- The fallback a guarded client was bound with. -/
inductive Fallback (ω α : Type) where
  | none
  | fixed (implementation : Implementation ω α)
  | factory (create : CallError → Implementation ω α)

/-- How the calls of a client are dispatched. -/
inductive Dispatch where
  | direct
  | guarded
  | withFallback
  | withFallbackFactory
  deriving DecidableEq, Repr

/-- The name of a way of dispatch. -/
def Dispatch.name : Dispatch → String
  | .direct => "Direct"
  | .guarded => "Guarded"
  | .withFallback => "WithFallback"
  | .withFallbackFactory => "WithFallbackFactory"

/-- What surrounds the primary implementation of a client. -/
inductive Guard (ω α : Type) where
  | bare
  | guarded (target : Target) (setters : SetterFactory) (fallback : Fallback ω α)

/-- A client bound to its way of dispatch. -/
structure BoundClient (ω α : Type) where
  primary : Implementation ω α
  guard : Guard ω α

/-- The state around the calls of a client. -/
structure World (β ω : Type) where
  breaker : β
  inner : ω
  samples : Meter := []

namespace BoundClient

variable {β ω α : Type}

/-- The way a client dispatches its calls. -/
def dispatch (client : BoundClient ω α) : Dispatch :=
  match client.guard with
  | .bare => .direct
  | .guarded _ _ .none => .guarded
  | .guarded _ _ (.fixed _) => .withFallback
  | .guarded _ _ (.factory _) => .withFallbackFactory

/-- A one-line description of a client. -/
def describe (client : BoundClient ω α) : String :=
  s!"TargetedClient \x7b binding: \"{client.dispatch.name}\" \x7d"

/-- The outcome of a run within a time limit; a run that takes exactly the limit still counts. -/
def limited (limit : Option Duration) (run : Run α) : Except CallError α :=
  match limit with
  | some limit => if limit.toNanos < run.took.toNanos then .error (.timeout limit) else run.outcome
  | none => run.outcome

/-- The outcome of the primary as the breaker allows it; the breaker learns how it went. -/
def guardedOutcome (client : BoundClient ω α) (breaker : Breaker β) (setter : CommandSetter)
    (method : String) (world : World β ω) : Except CallError α × World β ω :=
  let (allowed, asked) := breaker.allow setter.command world.breaker
  if allowed then
    let (run, inner) := client.primary method world.inner
    let outcome := limited setter.timeout run
    let told := match outcome with
      | .ok _ => breaker.success setter.command asked
      | .error _ => breaker.failure setter.command asked
    (outcome, { world with breaker := told, inner })
  else (.error (.circuitOpen setter.command), { world with breaker := asked })

/-- Turns to a fallback after a failure; its own outcome is final. -/
def recover (fallback : Fallback ω α) (client command method : String) (cause : CallError)
    (world : World β ω) : Except CallError α × World β ω :=
  let invoke (implementation : Implementation ω α) (fromFactory : Bool) :=
    let (run, inner) := implementation method world.inner
    (run.outcome, { world with
      inner, samples := world.samples ++ [.fallback client command fromFactory] })
  match fallback with
  | .none => (.error cause, world)
  | .fixed implementation => invoke implementation false
  | .factory create => invoke (create cause) true

/-- Calls a method of the client. -/
def call (client : BoundClient ω α) (breaker : Breaker β) (method : String) (world : World β ω) :
    Except CallError α × World β ω :=
  match client.guard with
  | .bare =>
    let (run, inner) := client.primary method world.inner
    (run.outcome, { world with inner })
  | .guarded target setters fallback =>
    let setter := setters target method
    match client.guardedOutcome breaker setter method world with
    | (.ok value, world) => (.ok value, world)
    | (.error cause, world) =>
      recover fallback target.resolvedName setter.command method cause world

end BoundClient

end ServiceCall
