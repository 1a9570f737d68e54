import ServiceCall.Http.Timeouts

/-!
Configuration of clients: defaults for all clients, overrides for each, and the settings one client
ends up with.
-/

namespace ServiceCall

/-- Settings that hold for every client unless it overrides them. -/
structure Defaults where
  connectTimeoutMillis : UInt64 := 60000
  readTimeoutMillis : UInt64 := 10000
  retryAllOperations : Bool := false
  sameServerRetries : Nat := 0
  nextServerRetries : Nat := 1
  strategy : String := "round_robin"
  securePorts : List UInt16 := [443, 8443]
  deriving DecidableEq, Repr, Inhabited

/-- Settings of one client that replace the defaults, and its servers. -/
structure ClientOverrides where
  connectTimeoutMillis : Option UInt64 := none
  readTimeoutMillis : Option UInt64 := none
  retryAllOperations : Option Bool := none
  sameServerRetries : Option Nat := none
  nextServerRetries : Option Nat := none
  strategy : Option String := none
  isSecure : Option Bool := none
  servers : List String := []
  deriving DecidableEq, Repr, Inhabited

/-- The whole configuration; each client is named once. -/
structure Config where
  defaults : Defaults := {}
  circuitBreaker : Bool := false
  clients : List (String × ClientOverrides) := []
  deriving DecidableEq, Repr, Inhabited

/-- The settings of one client. -/
structure ClientConfig where
  clientName : String
  connectTimeoutMillis : UInt64
  readTimeoutMillis : UInt64
  retryAllOperations : Bool
  sameServerRetries : Nat
  nextServerRetries : Nat
  strategy : String
  isSecure : Option Bool
  securePorts : List UInt16
  servers : List String
  deriving DecidableEq, Repr

namespace ClientConfig

/-- The overrides of a client over the defaults; the secure ports are those of the defaults. -/
def resolve (clientName : String) (defaults : Defaults) (overrides : ClientOverrides) :
    ClientConfig :=
  { clientName
    connectTimeoutMillis := overrides.connectTimeoutMillis.getD defaults.connectTimeoutMillis
    readTimeoutMillis := overrides.readTimeoutMillis.getD defaults.readTimeoutMillis
    retryAllOperations := overrides.retryAllOperations.getD defaults.retryAllOperations
    sameServerRetries := overrides.sameServerRetries.getD defaults.sameServerRetries
    nextServerRetries := overrides.nextServerRetries.getD defaults.nextServerRetries
    strategy := overrides.strategy.getD defaults.strategy
    isSecure := overrides.isSecure
    securePorts := defaults.securePorts
    servers := overrides.servers }

/-- The settings of a client that overrides nothing. -/
def ofName (clientName : String) : ClientConfig :=
  resolve clientName {} {}

/-- The timeouts of a client's calls. -/
def timeouts (config : ClientConfig) : Timeouts :=
  { connectMillis := config.connectTimeoutMillis, readMillis := config.readTimeoutMillis }

end ClientConfig

/-- The settings of a client by name; one without a section of its own gets the defaults. -/
def Config.client (config : Config) (clientName : String) : ClientConfig :=
  .resolve clientName config.defaults ((config.clients.lookup clientName).getD {})

end ServiceCall
