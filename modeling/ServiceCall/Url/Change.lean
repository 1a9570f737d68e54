import ServiceCall.Url.Parser

/-! Changing the scheme, the host or the port of a URL; all its other parts stay as they are. -/

namespace ServiceCall.Url

/-- The port as it is written under a scheme, where the scheme's own port is left out. -/
def writtenPort (scheme : String) (port : UInt16) : Option UInt16 :=
  if defaultPort? scheme = some port then none else some port

/-- The URL under another scheme of the same kind. -/
def withScheme (url : Url) (scheme : String) : Url :=
  { url with scheme, port := url.port.bind (writtenPort scheme) }

/-- The URL with another host, read from text by the rules of its scheme. -/
def setHost (url : Url) (host : String) : Except Problem Url :=
  match url.path with
  | .flat _ => .error .noHostToSet
  | .segments _ =>
    let read := if (kindOf url.scheme).isSpecial then Host.parseWeb else Host.parsePlain
    (read host.toList).map fun host => { url with host := some host }

/-- Whether a URL can have a port: it has a host and is not a file. -/
def canHavePort (url : Url) : Bool :=
  url.hostText?.isSome && url.scheme != "file"

/-- The URL with another port, if it can have one. -/
def setPort? (url : Url) (port : UInt16) : Option Url :=
  if url.canHavePort then some { url with port := writtenPort url.scheme port } else none

end ServiceCall.Url
