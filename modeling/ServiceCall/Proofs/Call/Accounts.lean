import ServiceCall.Proofs.Balancer.Rotation
import ServiceCall.Proofs.Call.Delivery

/-!
Calls over one pool, one after another, and what each of them came to. Other operations with the
pool may come between the calls.
-/

namespace ServiceCall

variable {τ : Type}

/-- A call over a pool that its caller waits for: its client, its transport and its request. -/
structure Turn (τ : Type) where
  config : ClientConfig
  introspector : Introspector
  transport : Transport τ
  request : Request
  override : Option TimeoutOverride

namespace Turn

/-- The executor of a turn. -/
def executor (turn : Turn τ) : Executor Pool τ where
  config := turn.config
  introspector := turn.introspector
  balancer := Pool.balancer
  transport := turn.transport

/-- The call of a turn. -/
def call (turn : Turn τ) : Call where
  request := turn.request
  timeouts := turn.executor.effectiveTimeouts turn.override

/-- The progress of a turn from its start to its end. -/
def take (turn : Turn τ) (pool : Pool) (transport : τ) : Progress Pool τ :=
  (turn.executor.run turn.call pool transport).2

end Turn

/-- What a call over a pool came to: the servers it was offered, what it sent, and its samples. -/
structure Account where
  client : String
  answers : List (Option Server)
  exchanges : List Exchange
  attempts : List (Attempt Pool)
  samples : Meter

/-- The number of servers that were chosen. -/
def Account.chosen (account : Account) : Nat :=
  account.answers.countP Option.isSome

/-- The account of a turn that is taken over a pool. -/
def Turn.account (turn : Turn τ) (pool : Pool) (transport : τ) : Account where
  client := turn.config.clientName
  answers := turn.executor.answers turn.call pool transport
  exchanges := turn.executor.exchanges turn.call pool transport
  attempts := (turn.take pool transport).attempts
  samples := (turn.take pool transport).samples

/-- An account tells what the balancer and the transport have seen of the turn. -/
def Account.Tells (account : Account) (turn : Turn τ) : Prop :=
  turn.executor.Recorded turn.call account.answers account.exchanges account.attempts

/-- The account of a turn tells what has been seen of it. -/
theorem Turn.account_tells (turn : Turn τ) (pool : Pool) (transport : τ) :
    (turn.account pool transport).Tells turn :=
  turn.executor.run_recorded turn.call pool transport

namespace Pool

/-- What happens to a pool: a call over it from its start to its end, or any other operation. -/
inductive Event (τ : Type) where
  | call (turn : Turn τ)
  | operation (op : Operation)

/-- The accounts of the calls among some events, each of which starts where the last one ended. -/
def accounts : List (Event τ) → Pool → τ → List Account
  | [], _, _ => []
  | .call turn :: rest, pool, transport =>
    turn.account pool transport ::
      accounts rest (turn.take pool transport).balancer (turn.take pool transport).transport
  | .operation op :: rest, pool, transport => accounts rest (pool.perform op) transport

/-- The pool and the transport that are left after some events. -/
def after : List (Event τ) → Pool → τ → Pool × τ
  | [], pool, transport => (pool, transport)
  | .call turn :: rest, pool, transport =>
    after rest (turn.take pool transport).balancer (turn.take pool transport).transport
  | .operation op :: rest, pool, transport => after rest (pool.perform op) transport

/-- Every account is that of a turn, whatever happened before. -/
theorem exists_turn_of_mem_accounts {events : List (Event τ)} {pool : Pool}
    {transport : τ} {account : Account} (member : account ∈ accounts events pool transport) :
    ∃ (turn : Turn τ) (before : Pool) (state : τ), account = turn.account before state := by
  -- The induction is on the events, of which only the calls have an account.
  induction events generalizing pool transport with
  | nil => cases member
  | cons event rest ih =>
    cases event with
    | operation op => exact ih member
    | call turn =>
      rcases List.mem_cons.mp member with rfl | later
      · exact ⟨turn, pool, transport, rfl⟩
      · exact ih later

/-- Each of some turns in a row has an account, which tells what has been seen of it. -/
theorem accounts_tell (turns : List (Turn τ)) (pool : Pool) (transport : τ) :
    List.Forall₂ (fun turn account => account.Tells turn) turns
      (accounts (turns.map Event.call) pool transport) := by
  -- The induction is on the turns, each of which starts in the state that the last one has left.
  induction turns generalizing pool transport with
  | nil => exact .nil
  | cons turn rest ih =>
    refine .cons (turn.account_tells pool transport) ?_
    exact ih (turn.take pool transport).balancer (turn.take pool transport).transport

end Pool

end ServiceCall
