import ServiceCall.Failure
import ServiceCall.Http.Headers
import ServiceCall.Http.Method
import ServiceCall.Url.Change

/-! Requests as callers make them, and the view of a request without its body. -/

namespace ServiceCall

/-- A request: what is asked of which URI, with header fields, body bytes and their charset. -/
structure Request where
  method : Method
  uri : Url
  headers : Headers := .empty
  body : List UInt8 := []
  charset : Option String := none
  deriving DecidableEq, Repr

/-- The method, URI and headers of a request, by exact spelling of the header names. -/
structure RequestView where
  method : Method
  uri : Url
  headers : List (String × List String)
  deriving DecidableEq, Repr

namespace Request

/-- A request without headers or body, its URI read from text. -/
def ofText (method : Method) (uri : String) : Except CallError Request :=
  match Url.parse uri with
  | .ok uri => .ok { method, uri }
  | .error problem => .error (.invalidUri (.unparsable uri problem))

/-- The request with one more header value. -/
def withHeader (request : Request) (name value : String) : Request :=
  { request with headers := request.headers.append name value }

/-- The same request aimed at another URI. -/
def withUri (request : Request) (uri : Url) : Request :=
  { request with uri }

/-- The request without its body. -/
def view (request : Request) : RequestView :=
  { method := request.method, uri := request.uri, headers := request.headers.toMap }

end Request

end ServiceCall
