import ServiceCall.Balancer.Strategy
import ServiceCall.Config.Basic
import ServiceCall.Failure
import ServiceCall.Server

/-! What a configuration must satisfy: known strategies, timeouts above zero, and valid servers. -/

namespace ServiceCall.Config

/-- Refuses a strategy name that is not known. -/
def checkStrategy (strategy scope : String) : Except CallError Unit :=
  if Strategy.isName strategy then .ok ()
  else .error (.configuration (.unknownStrategyIn strategy scope))

/-- Refuses a timeout of zero. -/
def checkTimeouts (timeouts : Timeouts) (scope : String) : Except CallError Unit :=
  if timeouts.connectMillis = 0 ∨ timeouts.readMillis = 0 then
    .error (.configuration (.zeroTimeout scope))
  else .ok ()

/-- Refuses the first server entry, counted from an index on, that is no server. -/
def checkServers (scope : String) : Nat → List String → Except CallError Unit
  | _, [] => .ok ()
  | index, entry :: entries =>
    match Server.parse entry with
    | .ok _ => checkServers scope (index + 1) entries
    | .error problem => .error (.configuration (.invalidServerIn entry scope index problem))

/-- Refuses a client whose strategy, timeouts or servers are at fault. -/
def checkClient (defaults : Defaults) (name : String) (overrides : ClientOverrides) :
    Except CallError Unit := do
  let scope := "clients." ++ name
  match overrides.strategy with
  | some strategy => checkStrategy strategy scope
  | none => .ok ()
  checkTimeouts (ClientConfig.resolve name defaults overrides).timeouts scope
  checkServers scope 0 overrides.servers

/-- Refuses the first client that is at fault. -/
def checkClients (defaults : Defaults) :
    List (String × ClientOverrides) → Except CallError Unit
  | [] => .ok ()
  | (name, overrides) :: rest => do
    checkClient defaults name overrides
    checkClients defaults rest

/-- Refuses a configuration whose defaults or clients are at fault. -/
def validate (config : Config) : Except CallError Unit := do
  checkStrategy config.defaults.strategy "defaults"
  checkTimeouts ⟨config.defaults.connectTimeoutMillis, config.defaults.readTimeoutMillis⟩ "defaults"
  checkClients config.defaults config.clients

end ServiceCall.Config
