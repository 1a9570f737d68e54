import ServiceCall.Http.Body
import ServiceCall.Http.Headers
import ServiceCall.Url.Basic

/-! Responses as a transport gives them, and the response of a call with the URI it came from. -/

namespace ServiceCall

/-- A response of the transport, with the body it owns if there is one. -/
structure Response where
  status : UInt16
  reason : Option String := none
  headers : Headers := .empty
  body : Option Body := none
  deriving DecidableEq, Repr

/-- A response with the URI that was requested. -/
structure CallResponse where
  requestedUri : Url
  response : Response
  deriving DecidableEq, Repr

namespace CallResponse

/-- A call succeeds with status 200 and with no other. -/
def isSuccess (call : CallResponse) : Bool :=
  call.response.status == 200

/-- Whether there is a body. -/
def hasPayload (call : CallResponse) : Bool :=
  call.response.body.isSome

/-- Releases the body, if there is one. -/
def close (call : CallResponse) : Except CallError Unit × CallResponse :=
  match call.response.body with
  | none => (.ok (), call)
  | some body =>
    let (closed, released) := body.close
    (closed, { call with response := { call.response with body := some released } })

end CallResponse

end ServiceCall
