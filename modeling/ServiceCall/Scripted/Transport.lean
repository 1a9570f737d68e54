import ServiceCall.Call.Transport
import ServiceCall.Scripted.Sequence

/-! A transport that answers from a script, with a list of outcomes for each address. -/

namespace ServiceCall.Scripted

/-- A scripted reply: how long it takes, whether it heeds timeouts, and how it ends. -/
structure Outcome where
  delay : Duration := .zero
  obeysTimeouts : Bool := false
  result : Except CallError Response := .ok { status := 200 }

/-- The outcomes of each address; those of the star are for the addresses without a list. -/
abbrev Script := List (String × List Outcome)

/-- The number of requests that each list has answered. -/
abbrev Answered := List (String × Nat)

/-- The address of a URL: its host and its known port, or zero when there is none. -/
def address (url : Url) : String :=
  url.hostText?.getD "" ++ ":" ++ toString ((url.knownPort?.map UInt16.toNat).getD 0)

/-- The counts after one more answer of a list. -/
def Answered.count (key : String) : Answered → Answered
  | [] => [(key, 1)]
  | (k, n) :: rest => if k = key then (k, n + 1) :: rest else (k, n) :: count key rest

/-- A scripted reply under some timeouts. -/
def Outcome.reply (outcome : Outcome) (timeouts : Timeouts) : Reply :=
  let limit := timeouts.total
  if outcome.obeysTimeouts ∧ limit.toNanos < outcome.delay.toNanos then
    { took := limit, outcome := .error (.timeout limit) }
  else { took := outcome.delay, outcome := outcome.result }

/-- The transport of a script. -/
def transport (script : Script) : Transport Answered := fun request timeouts answered =>
  let own := address request.uri
  let key := if (script.lookup own).isSome then own else "*"
  let outcomes := (script.lookup key).getD []
  let outcome := (answerAt outcomes ((answered.lookup key).getD 0)).getD {}
  (outcome.reply timeouts, answered.count key)

end ServiceCall.Scripted
