import ServiceCall.Failure
import ServiceCall.Server.Tracker
import ServiceCall.Text.Lowercase

/-!
Strategies that pick one of the live servers by its place among them: in turn, or by a sequence of
random draws that the strategy is given when it is built.
-/

namespace ServiceCall

/-- A way to pick servers, with what it remembers between two picks. -/
inductive Strategy where
  | roundRobin (next : UInt64)
  | random (draws : Nat → Nat) (taken : Nat)

namespace Strategy

/-- A rotation that starts at the first server. -/
def freshRoundRobin : Strategy := .roundRobin 0

/-- The name of a strategy in failures. -/
def name : Strategy → String
  | .roundRobin _ => "RoundRobinStrategy"
  | .random _ _ => "RandomStrategy"

/--
Picks one of some candidates and gives the strategy for the next pick. The rotation counts picks,
whatever the number of candidates was, and starts over after 2^64 of them.
-/
def pick (strategy : Strategy) (candidates : Nat) : Except Fatal (Nat × Strategy) :=
  if candidates = 0 then .error (.noCandidates strategy.name)
  else match strategy with
    | .roundRobin next => .ok (next.toNat % candidates, .roundRobin (next + 1))
    | .random draws taken => .ok (draws taken % candidates, .random draws (taken + 1))

/-- Whether a name, in any case, is that of a strategy. -/
def isName (name : String) : Bool :=
  ["round_robin", "random"].contains (Text.lowercase name)

/-- The strategy of a name in any case; a random one takes the draws that are given. -/
def ofName (draws : Nat → Nat) (name : String) : Except CallError Strategy :=
  let lowered := Text.lowercase name
  if lowered = "round_robin" then .ok freshRoundRobin
  else if lowered = "random" then .ok (.random draws 0)
  else .error (.configuration (.unknownStrategy lowered))

end Strategy

end ServiceCall
