import ServiceCall.Url.Host

/-! URLs in their parts, the text they are written as, and what is known about their schemes. -/

namespace ServiceCall

namespace Url

/-- A path: text without structure, or segments that each follow a slash. -/
inductive Path where
  | flat (text : String)
  | segments (names : List String)
  deriving DecidableEq, Repr

/-- The text of a path. -/
def Path.text : Path → String
  | .flat text => text
  | .segments names => String.join (names.map fun name => "/" ++ name)

end Url

/-- A URL in its parts; every part is already encoded as it is written. -/
structure Url where
  scheme : String
  username : String := ""
  password : String := ""
  host : Option Url.Host := none
  port : Option UInt16 := none
  path : Url.Path
  query : Option String := none
  fragment : Option String := none
  deriving DecidableEq, Repr

namespace Url

/-- The kinds of schemes that differ in how a URL is read. -/
inductive SchemeKind where
  | web
  | file
  | other
  deriving DecidableEq, Repr

/-- The kind of a scheme. -/
def kindOf (scheme : String) : SchemeKind :=
  if ["http", "https", "ws", "wss", "ftp"].contains scheme then .web
  else if scheme = "file" then .file
  else .other

/-- Web and file URLs are special: their paths are never empty and a backslash is a slash. -/
def SchemeKind.isSpecial : SchemeKind → Bool
  | .other => false
  | _ => true

/-- The port a scheme stands for when a URL names none. -/
def defaultPort? (scheme : String) : Option UInt16 :=
  if scheme = "http" ∨ scheme = "ws" then some 80
  else if scheme = "https" ∨ scheme = "wss" then some 443
  else if scheme = "ftp" then some 21
  else none

/-- The user name and password before a host, with the sign that ends them. -/
def credentials (url : Url) : String :=
  if url.username = "" ∧ url.password = "" then ""
  else url.username ++ (if url.password = "" then "" else ":" ++ url.password) ++ "@"

/-- The text of the host and everything that belongs to it. -/
def authority (url : Url) : String :=
  match url.host with
  | some host =>
    let port := match url.port with
      | some port => ":" ++ toString port.toNat
      | none => ""
    "//" ++ url.credentials ++ host.text ++ port
  | none =>
    -- A path that starts with two slashes must not be read as an authority.
    match url.path with
    | .segments ("" :: _ :: _) => "/."
    | _ => ""

/-- The URL as text. -/
def text (url : Url) : String :=
  url.scheme ++ ":" ++ url.authority ++ url.path.text
    ++ (match url.query with
      | some query => "?" ++ query
      | none => "")
    ++ (match url.fragment with
      | some fragment => "#" ++ fragment
      | none => "")

instance : ToString Url := ⟨text⟩

/-- The host as text, if there is one. -/
def hostText? (url : Url) : Option String :=
  match url.host with
  | none | some .empty => none
  | some host => some host.text

/-- The password, if there is one. -/
def password? (url : Url) : Option String :=
  if url.password = "" then none else some url.password

/-- The port to connect to: the one written or the one the scheme stands for. -/
def knownPort? (url : Url) : Option UInt16 :=
  url.port.orElse fun _ => defaultPort? url.scheme

end Url

end ServiceCall
