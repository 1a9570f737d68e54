import ServiceCall.Call.Introspection
import ServiceCall.Failure
import ServiceCall.Url.Change

/-!
Aiming a logical URI at a physical server. The scheme is upgraded first if the server is secure;
then the host and the port of the URI are replaced, and nothing else of it changes.
-/

namespace ServiceCall

/-- The secure scheme that stands for a plain one. -/
def secureScheme? (scheme : String) : Option String :=
  if scheme = "http" then some "https"
  else if scheme = "ws" then some "wss"
  else none

/-- The URI with its scheme upgraded when the server is secure and the scheme has a secure form. -/
def upgradeScheme (config : ClientConfig) (introspector : Introspector) (server : Server)
    (uri : Url) : Url :=
  match secureScheme? uri.scheme with
  | some secure => if config.isSecureServer introspector server then uri.withScheme secure else uri
  | none => uri

/-- The URI aimed at a server. -/
def bindUri (config : ClientConfig) (introspector : Introspector) (server : Server) (uri : Url) :
    Except CallError Url :=
  let upgraded := upgradeScheme config introspector server uri
  match upgraded.setHost (Server.bracketedHost server.host) with
  | .error problem => .error (.invalidUri (.unbindable uri.text server.hostPort problem))
  | .ok hosted =>
    match hosted.setPort? server.port with
    | none => .error (.invalidUri (.withoutPort server.port uri.text))
    | some bound => .ok bound

end ServiceCall
