import ServiceCall.Balancer.Pool
import ServiceCall.Call.Binding
import ServiceCall.Call.Transport
import ServiceCall.Meter
import ServiceCall.Retry

/-!
Calls of one logical client. A balanced call asks the balancer for a server, aims the request at it
and sends it; a failure is repeated on the same server and then on others as the retry policy
allows. A call can be abandoned by its caller while an attempt waits for the transport.
-/

namespace ServiceCall

/-- A logical client: its configuration, what is known of servers, its balancer and transport. -/
structure Executor (σ τ : Type) where
  config : ClientConfig
  introspector : Introspector
  balancer : Balancer σ
  transport : Transport τ

/-- One request handed to the transport, and the state of the balancer at that moment. -/
structure Sending (σ : Type) where
  request : Request
  timeouts : Timeouts
  balancer : σ

/-- How an attempt at a server went. -/
inductive Fate where
  | unbound (error : CallError)
  | answered (response : CallResponse) (elapsed : Duration)
  | failed (error : CallError) (elapsed : Duration)
  | abandoned (elapsed : Duration)
  deriving DecidableEq, Repr

/-- One attempt of a call: its server, what was sent if anything was, and how it went. -/
structure Attempt (σ : Type) where
  server : Server
  sending : Option (Sending σ)
  fate : Fate

/-- What a call carries along: the states around it, its samples, its attempts and its time. -/
structure Progress (σ τ : Type) where
  balancer : σ
  transport : τ
  samples : Meter := []
  attempts : List (Attempt σ) := []
  waited : Nat := 0

/-- How a call ended. -/
inductive Verdict where
  | answered (response : CallResponse)
  | failed (error : CallError)
  | abandoned
  deriving DecidableEq, Repr

/-- What a call is made with: the request, its timeouts, and how long its caller will wait. -/
structure Call where
  request : Request
  timeouts : Timeouts
  patience : Option Duration := none
  deriving DecidableEq, Repr

namespace Executor

variable {σ τ : Type}

/-- The name of the logical client. -/
def clientName (executor : Executor σ τ) : String :=
  executor.config.clientName

/-- The timeouts of a call: those of its override, and else those of the client. -/
def effectiveTimeouts (executor : Executor σ τ) (override : Option TimeoutOverride) : Timeouts :=
  match override with
  | some override => override.merge executor.config.timeouts
  | none => executor.config.timeouts

/--
The retry policy of a call. Repeating a request on another server is safe when it only reads, or
when the client is configured to repeat everything.
-/
def retryPolicy (executor : Executor σ τ) (request : Request) : RetryPolicy :=
  { onSameServer := true
    onNextServer := executor.config.retryAllOperations || request.method == .get
    bounds := .ofConfig executor.config }

/-- The time left to a caller that has waited for a while, in nanoseconds. -/
def patienceLeft (call : Call) (waited : Nat) : Option Nat :=
  call.patience.map fun patience => patience.toNanos - waited

/-- Whether a caller gives up before a reply that takes some time. -/
def givesUp (call : Call) (waited : Nat) (took : Duration) : Bool :=
  match patienceLeft call waited with
  | some left => left < took.toNanos
  | none => false

/-- Hands a request to the transport, without any balancing. -/
def send (executor : Executor σ τ) (request : Request) (timeouts : Timeouts) (transport : τ) :
    Duration × Except CallError CallResponse × τ :=
  let (reply, transport) := executor.transport request timeouts transport
  (reply.took, reply.outcome.map fun response => ⟨request.uri, response⟩, transport)

/-- The balancer after an attempt that was sent, by how it went. -/
def report (executor : Executor σ τ) (server : Server) (fate : Fate) (balancer : σ) : σ :=
  match fate with
  | .unbound _ => balancer
  | .answered response elapsed =>
    executor.balancer.recordResult server elapsed response.isSuccess balancer
  | .failed error elapsed =>
    if error.isServerFailure then executor.balancer.recordResult server elapsed false balancer
    else executor.balancer.recordRelease server balancer
  | .abandoned elapsed => executor.balancer.recordResult server elapsed false balancer

/-- The samples of an attempt; one that was not sent, or was abandoned, leaves none. -/
def samples (executor : Executor σ τ) (server : Server) (fate : Fate) : Meter :=
  match fate with
  | .unbound _ | .abandoned _ => []
  | .answered response elapsed =>
    .ofAnswer executor.clientName server.hostPort response.response.status elapsed
  | .failed error elapsed => .ofFailure executor.clientName server.hostPort error elapsed

/-- Makes one attempt at a server. -/
def attempt (executor : Executor σ τ) (call : Call) (server : Server) (progress : Progress σ τ) :
    Fate × Progress σ τ :=
  match bindUri executor.config executor.introspector server call.request.uri with
  | .error error =>
    let fate := .unbound error
    (fate, { progress with attempts := progress.attempts ++ [⟨server, none, fate⟩] })
  | .ok uri =>
    let request := call.request.withUri uri
    let started := executor.balancer.recordStart server progress.balancer
    let (took, outcome, transport) :=
      executor.send request call.timeouts progress.transport
    let fate :=
      if givesUp call progress.waited took then
        .abandoned (.ofParts 0 ((patienceLeft call progress.waited).getD 0))
      else match outcome with
        | .ok response => .answered response took
        | .error error => .failed error took
    (fate,
      { balancer := executor.report server fate started
        transport
        samples := progress.samples ++ executor.samples server fate
        attempts := progress.attempts ++ [⟨server, some ⟨request, call.timeouts, started⟩, fate⟩]
        waited := progress.waited + took.toNanos })

/-- The progress with one more retry counted. -/
def countRetry (executor : Executor σ τ) (sameServer : Bool) (progress : Progress σ τ) :
    Progress σ τ :=
  { progress with samples := progress.samples ++ [.retry executor.clientName sameServer] }

/-- Makes attempts at one server, with a number of retries left for it. -/
def tryServer (executor : Executor σ τ) (call : Call) (policy : RetryPolicy) (server : Server) :
    Nat → Progress σ τ → Verdict × Progress σ τ
  | retries, progress =>
    match executor.attempt call server progress with
    | (.answered response _, progress) => (.answered response, progress)
    | (.abandoned _, progress) => (.abandoned, progress)
    | (.unbound error, progress) | (.failed error _, progress) =>
      match retries with
      | 0 => (.failed error, progress)
      | retries + 1 =>
        if policy.mayRetry error true then
          tryServer executor call policy server retries (executor.countRetry true progress)
        else (.failed error, progress)

/-- The failure of a call that gives up: the last cause, and how many attempts came to nothing. -/
def exhausted (attempts : Nat) (last : CallError) : CallError :=
  if attempts = 1 then last else .retriesExhausted attempts last

/-- Makes attempts at one server after another, with a number of moves left. -/
def tryServers (executor : Executor σ τ) (call : Call) (policy : RetryPolicy) :
    Nat → Progress σ τ → Verdict × Progress σ τ
  | moves, progress =>
    match executor.balancer.choose (some executor.clientName) progress.balancer with
    | (none, balancer) => (.failed (.noServer executor.clientName), { progress with balancer })
    | (some server, balancer) =>
      match executor.tryServer call policy server policy.sameServerRetries
          { progress with balancer } with
      | (.failed error, progress) =>
        let giveUp := (.failed (exhausted progress.attempts.length error), progress)
        match moves with
        | 0 => giveUp
        | moves + 1 =>
          if policy.mayRetry error false then
            tryServers executor call policy moves (executor.countRetry false progress)
          else giveUp
      | ended => ended

/-- Runs a balanced call: chooses servers, sends the request to them and retries as allowed. -/
def run (executor : Executor σ τ) (call : Call) (balancer : σ) (transport : τ) :
    Verdict × Progress σ τ :=
  let policy := executor.retryPolicy call.request
  executor.tryServers call policy policy.nextServerRetries { balancer, transport }

/-- Sends a request once, as it is, to the server its URI already names. -/
def runOnce (executor : Executor σ τ) (call : Call) (balancer : σ) (transport : τ) :
    Verdict × τ × Sending σ :=
  let (took, outcome, transport) := executor.send call.request call.timeouts transport
  let verdict := if givesUp call 0 took then .abandoned
    else match outcome with
      | .ok response => .answered response
      | .error error => .failed error
  (verdict, transport, ⟨call.request, call.timeouts, balancer⟩)

/-- The executor of a client's configured servers, with the pool it starts from. -/
def ofConfig (draws : Nat → Nat) (config : ClientConfig) (transport : Transport τ) :
    Except CallError (Executor Pool τ × Pool) := do
  let pool ← Pool.ofConfig draws config
  let introspector := Introspector.ofConfig config
  .ok ({ config, introspector, balancer := Pool.balancer, transport }, pool)

end Executor

end ServiceCall
