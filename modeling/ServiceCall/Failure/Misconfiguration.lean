import ServiceCall.Server

/-! The faults of a configuration, each with the wording that tells how to mend it. -/

namespace ServiceCall

/-- The two ways a target names its fallback. -/
inductive FallbackMechanism where
  | fixed
  | factory
  deriving DecidableEq, Repr

/-- The name of a fallback mechanism in messages. -/
def FallbackMechanism.name : FallbackMechanism → String
  | .fixed => "fallback"
  | .factory => "fallbackFactory"

/-- What is wrong with a configuration. -/
inductive Misconfiguration where
  | stated (message : String)
  | unreadableFile (path reason : String)
  | malformedText
  | missingVariable (name client : String) (index : Nat)
  | unknownStrategy (name : String)
  | unknownStrategyIn (name scope : String)
  | zeroTimeout (scope : String)
  | invalidServerIn (entry scope : String) (index : Nat) (problem : ServerProblem)
  | invalidServer (entry client : String) (problem : ServerProblem)
  | ambiguousBean (view client first second : String)
  | missingBean (mechanism : FallbackMechanism) (bean client : String)
  | incompatibleBean (mechanism : FallbackMechanism) (bean view client : String)
  deriving DecidableEq, Repr

/-- The wording of a configuration fault. -/
def Misconfiguration.message : Misconfiguration → String
  | .stated message => message
  | .unreadableFile path reason => s!"Failed to read config file '{path}': {reason}"
  | .malformedText => "Failed to parse TOML"
  | .missingVariable name client index =>
    s!"Environment variable '{name}' not found\n  → Set it with: export {name}=\"host:port\"" ++
      s!"\n  → Referenced in clients.{client}.servers[{index}]"
  | .unknownStrategy name => s!"Unknown strategy '{name}'"
  | .unknownStrategyIn name scope =>
    s!"Unknown strategy '{name}' in {scope}\n  → Valid strategies: round_robin, random"
  | .zeroTimeout scope => s!"Timeouts in {scope} must be greater than zero"
  | .invalidServerIn entry scope index problem =>
    s!"Invalid server '{entry}' in {scope}.servers[{index}]: " ++ problem.message
  | .invalidServer entry client problem =>
    s!"Invalid server '{entry}' for client {client}: " ++ problem.message
  | .ambiguousBean view client first second =>
    s!"Expected a single bean of type {view} for client {client} but found {first} and {second}"
  | .missingBean mechanism bean client =>
    s!"No {mechanism.name} instance of type {bean} found for client {client}"
  | .incompatibleBean mechanism bean view client =>
    s!"Incompatible {mechanism.name} instance. Fallback/fallbackFactory of type {bean}" ++
      s!" is not assignable to {view} for client {client}"

end ServiceCall
