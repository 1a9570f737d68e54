import ServiceCall.Config.Basic
import ServiceCall.Server
import ServiceCall.Text.AsciiCase

/-! What is known about servers beyond their address: whether they must be reached securely. -/

namespace ServiceCall

/-- Answers about servers that a load balancer does not track. -/
structure Introspector where
  isSecure : Server → Bool
  facts : Server → Metadata

namespace Introspector

/-- The key under which a server publishes that it is secure. -/
def secureKey : String := "secure"

/-- A server publishes that it is secure by the word true in any ASCII case. -/
def publishesSecure (facts : Metadata) : Bool :=
  match facts.get? secureKey with
  | some value => Text.sameIgnoringCase value "true"
  | none => false

/-- Takes a server for secure when its port is one of some ports or when it publishes so. -/
def ofPorts (securePorts : List UInt16) : Introspector where
  isSecure server := securePorts.contains server.port || publishesSecure server.metadata
  facts server := server.metadata

/-- The introspector of a client's secure ports. -/
def ofConfig (config : ClientConfig) : Introspector :=
  ofPorts config.securePorts

/-- The introspector of the default secure ports. -/
def standard : Introspector :=
  ofPorts ({} : Defaults).securePorts

end Introspector

/-- Whether a server is secure for a client, whose own setting wins over the introspector. -/
def ClientConfig.isSecureServer (config : ClientConfig) (introspector : Introspector)
    (server : Server) : Bool :=
  config.isSecure.getD (introspector.isSecure server)

end ServiceCall
