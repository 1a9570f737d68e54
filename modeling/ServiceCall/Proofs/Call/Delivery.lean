import ServiceCall.Proofs.Call.Binding
import ServiceCall.Proofs.Call.Course

/-!
The record of a call against what its balancer and its transport have seen. Each attempt goes to the
server that was chosen for it, each server that the URI can be aimed at is handed the request of the
call under its own address, and the transport is handed nothing else.
-/

namespace ServiceCall

variable {σ τ : Type}

/-- A URI that calls are made with: its scheme is one of theirs, and its path is in segments. -/
def Url.IsCallable (uri : Url) : Prop :=
  uri.scheme ∈ callSchemes ∧ ∃ names, uri.path = .segments names

/--
A URI of a call, aimed at a server: the host is that of the server as it is shown, the port is that
of the server, the scheme is upgraded if the server is secure, and all the rest is kept.
-/
structure Url.Aimed (secure : Bool) (server : Server) (uri aimed : Url) : Prop where
  host : ∃ host, Url.Host.parseWeb (Server.bracketedHost server.host).toList = .ok host ∧
    aimed.host = some host
  port : aimed.knownPort? = some server.port
  scheme : aimed.scheme = aimedScheme secure uri.scheme
  rest : aimed = { uri with scheme := aimed.scheme, host := aimed.host, port := aimed.port }

/-- A URI of a call is aimed at a server exactly if the host of the server is a web host. -/
theorem bindUri_aimed {uri : Url} (callable : uri.IsCallable) (config : ClientConfig)
    (introspector : Introspector) (server : Server) :
    (∃ error, bindUri config introspector server uri = .error error ∧
      ∀ host, Url.Host.parseWeb (Server.bracketedHost server.host).toList ≠ .ok host) ∨
    ∃ aimed, bindUri config introspector server uri = .ok aimed ∧
      Url.Aimed (config.isSecureServer introspector server) server uri aimed := by
  obtain ⟨web, rooted⟩ := callable
  have bound := bindUri_web web rooted config introspector server
  -- The host is read first, and nothing can fail after that.
  cases read : Url.Host.parseWeb (Server.bracketedHost server.host).toList with
  | error problem =>
    rw [read] at bound
    exact .inl ⟨_, bound, nofun⟩
  | ok host =>
    rw [read] at bound
    refine .inr ⟨_, bound, ?_⟩
    -- The port is written so that it is known, even where the scheme stands for it.
    exact ⟨⟨host, read, rfl⟩, Url.knownPort?_of_writtenPort rfl, rfl, rfl⟩

/--
An attempt hands over the request of its call, aimed at the server of the attempt, or nothing if
that is not possible. A URI of a call can be aimed at every server whose host is a web host.
-/
structure Attempt.Delivers (executor : Executor σ τ) (call : Call) (attempt : Attempt σ) :
    Prop where
  unbound : ∀ error, bindUri executor.config executor.introspector attempt.server
      call.request.uri = .error error → attempt.handed = none ∧ attempt.fate = .unbound error
  bound : ∀ uri, bindUri executor.config executor.introspector attempt.server
      call.request.uri = .ok uri →
    attempt.handed = some (call.request.withUri uri, call.timeouts)
  callable : call.request.uri.IsCallable →
    (attempt.handed = none ∧
      ∀ host, Url.Host.parseWeb (Server.bracketedHost attempt.server.host).toList ≠ .ok host) ∨
    ∃ uri, attempt.handed = some (call.request.withUri uri, call.timeouts) ∧
      Url.Aimed (executor.config.isSecureServer executor.introspector attempt.server)
        attempt.server call.request.uri uri

/-- What an attempt records is what it hands over. -/
theorem Attempt.Genuine.delivers {executor : Executor σ τ} {call : Call} {attempt : Attempt σ}
    (genuine : attempt.Genuine executor call) : attempt.Delivers executor call := by
  -- Each of the first two says what the record says, in terms of what was handed over.
  have unbound : ∀ error, bindUri executor.config executor.introspector attempt.server
      call.request.uri = .error error →
        attempt.handed = none ∧ attempt.fate = .unbound error := by
    intro error failed
    obtain ⟨unsent, fate⟩ := genuine.unbound error failed
    exact ⟨by rw [Attempt.handed, unsent]; rfl, fate⟩
  have bound : ∀ uri, bindUri executor.config executor.introspector attempt.server
      call.request.uri = .ok uri →
        attempt.handed = some (call.request.withUri uri, call.timeouts) := by
    intro uri aimed
    obtain ⟨sending, sent, request, timeouts, _⟩ := genuine.sent uri aimed
    rw [Attempt.handed, sent, Option.map_some, request, timeouts]
  refine ⟨unbound, bound, ?_⟩
  -- For a URI of a call, the host of the server decides between the two.
  intro callable
  rcases bindUri_aimed callable executor.config executor.introspector attempt.server with
    ⟨error, failed, unread⟩ | ⟨uri, aims, aimed⟩
  · exact .inl ⟨(unbound error failed).1, unread⟩
  · exact .inr ⟨uri, bound uri aims, aimed⟩

/-- An attempt that may be repeated could be aimed at its server. -/
theorem Attempt.Genuine.exists_bound {executor : Executor σ τ} {call : Call}
    {attempt : Attempt σ} (genuine : attempt.Genuine executor call)
    (repeatable : attempt.fate.verdict.isRepeatable = true) :
    ∃ uri, bindUri executor.config executor.introspector attempt.server call.request.uri =
      .ok uri := by
  cases bound : bindUri executor.config executor.introspector attempt.server
      call.request.uri with
  | ok uri => exact ⟨uri, rfl⟩
  | error error =>
    -- A fault of the URI is never repeated.
    obtain ⟨fault, rfl⟩ := bindUri_error bound
    rw [(genuine.unbound _ bound).2] at repeatable
    cases repeatable

namespace Executor

/--
The record of a call tells what its balancer and its transport have seen: the attempts go to the
servers that were chosen, a number of them to each, and at least one to every server; every attempt
delivers its request; the transport was handed what the attempts handed over and nothing else; and
if the caller waits for every reply, the attempts that were sent went as the replies say.
-/
structure Recorded (executor : Executor σ τ) (call : Call) (answers : List (Option Server))
    (exchanges : List Exchange) (attempts : List (Attempt σ)) : Prop where
  chosen : ∀ i attempt, attempts[i]? = some attempt →
    answers[i / (1 + executor.config.sameServerRetries)]? = some (some attempt.server)
  attempted : ∀ (i : Nat) (server : Server), answers[i]? = some (some server) →
    ∃ attempt, attempts[i * (1 + executor.config.sameServerRetries)]? = some attempt ∧
      attempt.server = server
  delivered : ∀ attempt ∈ attempts, attempt.Delivers executor call
  handed : exchanges.map Exchange.handed = attempts.filterMap Attempt.handed
  replied : call.patience = none → exchanges.map Exchange.fate =
    attempts.filterMap fun attempt => attempt.sending.map fun _ => attempt.fate

/-- Each attempt at a server that the URI can be aimed at is an exchange with the transport. -/
theorem Recorded.exists_exchange {executor : Executor σ τ} {call : Call}
    {answers : List (Option Server)} {exchanges : List Exchange} {attempts : List (Attempt σ)}
    (recorded : executor.Recorded call answers exchanges attempts) {attempt : Attempt σ}
    (member : attempt ∈ attempts) {uri : Url}
    (aimed : bindUri executor.config executor.introspector attempt.server call.request.uri =
      .ok uri) :
    ∃ exchange ∈ exchanges, exchange.handed = (call.request.withUri uri, call.timeouts) := by
  -- What the attempt handed over is among what the transport was handed.
  have delivered := (recorded.delivered attempt member).bound uri aimed
  have among : (call.request.withUri uri, call.timeouts) ∈ exchanges.map Exchange.handed := by
    rw [recorded.handed]
    exact List.mem_filterMap.mpr ⟨attempt, member, delivered⟩
  exact List.mem_map.mp among

/-- Every call is recorded as it went. -/
theorem run_recorded (executor : Executor σ τ) (call : Call) (balancer : σ) (transport : τ) :
    executor.Recorded call (executor.answers call balancer transport)
      (executor.exchanges call balancer transport)
      (executor.run call balancer transport).2.attempts := by
  refine ⟨?_, ?_, ?_, executor.exchanges_handed call balancer transport, ?_⟩
  · -- The attempts at the earlier servers come before those at a later one.
    intro i attempt found
    rw [Nat.add_comm]
    exact executor.run_server_at call balancer transport found
  · -- Conversely, no server is chosen without an attempt at it.
    intro i server asked
    rw [Nat.add_comm]
    exact executor.run_attempted call balancer transport asked
  · intro attempt member
    exact (executor.run_genuine call balancer transport attempt member).delivers
  · intro patient
    exact executor.exchanges_fate patient balancer transport

end Executor

end ServiceCall
