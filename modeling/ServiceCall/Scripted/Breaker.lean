import ServiceCall.Scripted.Sequence
import ServiceCall.Target.Client

/-! Circuit breakers that answer by a rule and remember what they were asked and told. -/

namespace ServiceCall.Scripted

/-- One exchange with a breaker about a command. -/
inductive BreakerEvent where
  | allow (command : String)
  | deny (command : String)
  | success (command : String)
  | failure (command : String)
  deriving DecidableEq, Repr

/-- The text of an exchange. -/
def BreakerEvent.text : BreakerEvent → String
  | .allow command => "allow " ++ command
  | .deny command => "deny " ++ command
  | .success command => "success " ++ command
  | .failure command => "failure " ++ command

/-- What a breaker remembers: the exchanges so far, and how many questions it has answered. -/
structure BreakerLog where
  events : List BreakerEvent := []
  asked : Nat := 0
  deriving DecidableEq, Repr

/-- The failures of a command in a row, as the exchanges end. -/
def failuresInRow (command : String) (events : List BreakerEvent) : Nat :=
  events.foldl (fun count event =>
    if event = .failure command then count + 1
    else if event = .success command then 0
    else count) 0

/-- A breaker that allows a command by a rule over what it remembers. -/
def breakerBy (allows : BreakerLog → String → Bool) : Breaker BreakerLog where
  allow command log :=
    let allowed := allows log command
    let event := if allowed then .allow command else .deny command
    (allowed, { events := log.events ++ [event], asked := log.asked + 1 })
  success command log := { log with events := log.events ++ [.success command] }
  failure command log := { log with events := log.events ++ [.failure command] }

/-- A breaker that gives some answers in order and repeats the last one. -/
def breakerOf (answers : List Bool) : Breaker BreakerLog :=
  breakerBy fun log _ => (answerAt answers log.asked).getD true

/-- A breaker that refuses a command after some failures in a row. -/
def breakerAfter (failures : Nat) : Breaker BreakerLog :=
  breakerBy fun log command => failuresInRow command log.events < failures

end ServiceCall.Scripted
