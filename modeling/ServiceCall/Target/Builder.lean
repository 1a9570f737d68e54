import ServiceCall.Target.Client

/-! Builders bind targets to clients, either directly or guarded by a circuit breaker. -/

namespace ServiceCall

/-- How a builder binds: directly, or guarded with keys and limits from a setter factory. -/
inductive BuilderKind where
  | plain
  | circuitBreaker (setters : SetterFactory)

/-- The name of a kind of builder. -/
def BuilderKind.name : BuilderKind → String
  | .plain => "Plain"
  | .circuitBreaker _ => "CircuitBreaker"

/-- A builder: its kind, and the factory that makes the primary implementation of a target. -/
structure Builder (ω α : Type) where
  kind : BuilderKind
  factory : Target → ω → Implementation ω α × ω

namespace Builder

variable {ω α : Type}

/-- A builder of direct clients. -/
def plain (factory : Target → ω → Implementation ω α × ω) : Builder ω α :=
  { kind := .plain, factory }

/-- A builder of guarded clients with the standard setter factory. -/
def circuitBreaker (factory : Target → ω → Implementation ω α × ω) : Builder ω α :=
  { kind := .circuitBreaker .standard, factory }

/-- The builder that the circuit-breaker switch of a configuration asks for. -/
def ofSwitch (enabled : Bool) (factory : Target → ω → Implementation ω α × ω) : Builder ω α :=
  if enabled then circuitBreaker factory else plain factory

/-- Whether bound clients can have a fallback. -/
def supportsFallback (builder : Builder ω α) : Bool :=
  match builder.kind with
  | .plain => false
  | .circuitBreaker _ => true

/-- The builder with another setter factory, which a plain one has no use for. -/
def withSetters (builder : Builder ω α) (setters : SetterFactory) : Builder ω α :=
  match builder.kind with
  | .plain => builder
  | .circuitBreaker _ => { builder with kind := .circuitBreaker setters }

/-- Binds a target with a fallback, making its primary implementation once. -/
def bindWith (builder : Builder ω α) (target : Target) (fallback : Fallback ω α) (world : ω) :
    BoundClient ω α × ω :=
  let (primary, world) := builder.factory target world
  match builder.kind with
  | .plain => ({ primary, guard := .bare }, world)
  | .circuitBreaker setters => ({ primary, guard := .guarded target setters fallback }, world)

/-- Binds a target without a fallback. -/
def bind (builder : Builder ω α) (target : Target) (world : ω) : BoundClient ω α × ω :=
  builder.bindWith target .none world

end Builder

end ServiceCall
