import ServiceCall.Proofs.Call.Simulation

/-!
Calls watched from outside. A balancer may remember the answers it gave, and a transport what it
was handed and what it replied; a call behaves alike whether they do or not.
-/

namespace ServiceCall

/-- One exchange with a transport: what it was handed, and its reply. -/
structure Exchange where
  request : Request
  timeouts : Timeouts
  reply : Reply

variable {σ τ : Type}

/-- The balancer that also remembers its answers, the latest one last. -/
def Balancer.remembering (balancer : Balancer σ) : Balancer (σ × List (Option Server)) where
  choose key state :=
    let (answer, next) := balancer.choose key state.1
    (answer, next, state.2 ++ [answer])
  markDown server state := (balancer.markDown server state.1, state.2)
  reachable state := balancer.reachable state.1
  recordStart server state := (balancer.recordStart server state.1, state.2)
  recordResult server elapsed success state :=
    (balancer.recordResult server elapsed success state.1, state.2)
  recordRelease server state := (balancer.recordRelease server state.1, state.2)
  stats state := balancer.stats state.1

/-- The transport that also remembers its exchanges, the latest one last. -/
def Transport.remembering (transport : Transport τ) : Transport (τ × List Exchange) :=
  fun request timeouts state =>
    let (reply, next) := transport request timeouts state.1
    (reply, next, state.2 ++ [⟨request, timeouts, reply⟩])

/-- The attempt without what the balancer remembered when it was sent. -/
def Attempt.forget (attempt : Attempt (σ × List (Option Server))) : Attempt σ :=
  { server := attempt.server
    sending := attempt.sending.map fun sending =>
      ⟨sending.request, sending.timeouts, sending.balancer.1⟩
    fate := attempt.fate }

/-- The progress without what the balancer and the transport remember. -/
def Progress.forget (progress : Progress (σ × List (Option Server)) (τ × List Exchange)) :
    Progress σ τ :=
  { balancer := progress.balancer.1
    transport := progress.transport.1
    samples := progress.samples
    attempts := progress.attempts.map Attempt.forget
    waited := progress.waited }

namespace Executor

/-- The executor whose balancer and transport also remember. -/
def remembering (executor : Executor σ τ) :
    Executor (σ × List (Option Server)) (τ × List Exchange) where
  config := executor.config
  introspector := executor.introspector
  balancer := executor.balancer.remembering
  transport := executor.transport.remembering

/-- The balancer's answers during a call, in their order. -/
def answers (executor : Executor σ τ) (call : Call) (balancer : σ) (transport : τ) :
    List (Option Server) :=
  (executor.remembering.run call (balancer, []) (transport, [])).2.balancer.2

/-- The exchanges with the transport during a call, in their order. -/
def exchanges (executor : Executor σ τ) (call : Call) (balancer : σ) (transport : τ) :
    List Exchange :=
  (executor.remembering.run call (balancer, []) (transport, [])).2.transport.2

/-- The start of an attempt changes what a balancer keeps and not the answers it remembers. -/
theorem recordStart_remembering (executor : Executor σ τ) (server : Server)
    (state : σ × List (Option Server)) :
    executor.remembering.balancer.recordStart server state =
      (executor.balancer.recordStart server state.1, state.2) :=
  rfl

/-- A choice is remembered behind the earlier ones. -/
theorem choose_remembering {executor : Executor σ τ} {key : Option String}
    {state : σ × List (Option Server)} {answer : Option Server} {next : σ}
    (asked : executor.balancer.choose key state.1 = (answer, next)) :
    executor.remembering.balancer.choose key state = (answer, next, state.2 ++ [answer]) := by
  -- The answer is that of the other balancer, and only the memory is new.
  simp [remembering, Balancer.remembering, asked]

/-- An exchange is remembered behind the earlier ones. -/
theorem transport_remembering {executor : Executor σ τ} {request : Request} {timeouts : Timeouts}
    {state : τ × List Exchange} {reply : Reply} {next : τ}
    (replied : executor.transport request timeouts state.1 = (reply, next)) :
    executor.remembering.transport request timeouts state =
      (reply, next, state.2 ++ [⟨request, timeouts, reply⟩]) := by
  -- The other transport replies, from a state without the memory.
  simp [remembering, Transport.remembering, replied]

/-- A report changes what a balancer keeps and not the answers it remembers. -/
theorem report_remembering (executor : Executor σ τ) (server : Server) (fate : Fate)
    (state : σ × List (Option Server)) :
    executor.remembering.report server fate state =
      (executor.report server fate state.1, state.2) := by
  -- Each report is one operation of the balancer or none.
  cases fate with
  | failed error elapsed =>
    simp only [report]
    split <;> rfl
  | unbound error => rfl
  | answered response elapsed => rfl
  | abandoned elapsed => rfl

/-- What is remembered stands beside what the executor keeps, and changes nothing that it does. -/
theorem remembering_simulates (executor : Executor σ τ) :
    executor.remembering.Simulates executor Prod.fst Prod.fst where
  config := rfl
  introspector := rfl
  choose _ _ := rfl
  recordStart _ _ := rfl
  recordResult _ _ _ _ := rfl
  recordRelease _ _ := rfl
  transport _ _ _ := rfl

/-- A call goes alike whether its balancer and its transport remember or not. -/
theorem run_remembering (executor : Executor σ τ) (call : Call) (balancer : σ) (transport : τ) :
    executor.run call balancer transport =
      ((executor.remembering.run call (balancer, []) (transport, [])).1,
        (executor.remembering.run call (balancer, []) (transport, [])).2.forget) :=
  executor.remembering_simulates.run call (balancer, []) (transport, [])

end Executor

end ServiceCall
