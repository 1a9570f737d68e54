import ServiceCall.Proofs.Call.Delivery

/-!
What a call hands to its transport: in every attempt the request of the caller, aimed at the server
of that attempt and at no other.
-/

namespace ServiceCall

variable {σ τ : Type}

/-- An attempt was answered only by a reply to what it handed over. -/
theorem Attempt.Genuine.answered {executor : Executor σ τ} {call : Call} {attempt : Attempt σ}
    (genuine : attempt.Genuine executor call) {response : CallResponse} {elapsed : Duration}
    (answered : attempt.fate = .answered response elapsed) :
    ∃ handed, attempt.handed = some handed ∧ response.requestedUri = handed.1.uri := by
  -- An attempt that could not be aimed has a failure for its fate.
  cases bound : bindUri executor.config executor.introspector attempt.server
      call.request.uri with
  | error error =>
    rw [(genuine.unbound error bound).2] at answered
    cases answered
  | ok uri =>
    obtain ⟨sending, sent, aimed, _, waited, reply, went⟩ := genuine.sent uri bound
    refine ⟨(sending.request, sending.timeouts), by simp [Attempt.handed, sent], ?_⟩
    have replied : call.fate waited uri reply = .answered response elapsed := went ▸ answered
    rw [(Call.fate_answered replied).1, aimed]
    rfl

namespace Executor

/-- The response of a call names the URI of the last request that was handed over. -/
theorem run_requestedUri (executor : Executor σ τ) (call : Call) (balancer : σ) (transport : τ)
    {response : CallResponse}
    (answered : (executor.run call balancer transport).1 = .answered response) :
    ∃ last, (executor.exchanges call balancer transport).getLast? = some last ∧
      response.requestedUri = last.request.uri := by
  -- A call that found no server was not answered, so the last attempt was.
  have offered : none ∉ executor.answers call balancer transport := by
    intro refused
    rw [(executor.run_stranded call balancer transport refused).1] at answered
    cases answered
  obtain ⟨_, before, last, split, concluded, _⟩ :=
    executor.run_ended call balancer transport offered
  rw [concluded] at answered
  obtain ⟨elapsed, fate⟩ := Verdict.ofCall_answered answered
  have genuine := executor.run_genuine call balancer transport last (by simp [split])
  obtain ⟨handed, sent, named⟩ := genuine.answered fate
  -- What was handed over last is what the last attempt records.
  have memory := executor.exchanges_handed call balancer transport
  rw [split, List.filterMap_append, List.filterMap_cons_some sent, List.filterMap_nil] at memory
  obtain ⟨early, late, exchanges, _, final⟩ := List.map_eq_append_iff.mp memory
  obtain ⟨exchange, rfl, same⟩ := List.map_eq_singleton_iff.mp final
  refine ⟨exchange, by simp [exchanges], ?_⟩
  rw [named, ← same]
  rfl

/--
Every request that a call hands over is the caller's own but for its URI, which is the caller's URI
aimed at the server chosen for the attempt. The timeouts are those of the override in every attempt,
and a response names the URI that was handed over last.
-/
theorem run_hands_over (executor : Executor σ τ) (request : Request)
    (override : Option TimeoutOverride) (patience : Option Duration) (balancer : σ)
    (transport : τ) :
    let call : Call := { request, timeouts := executor.effectiveTimeouts override, patience }
    let perServer := 1 + executor.config.sameServerRetries
    let verdict := (executor.run call balancer transport).1
    let attempts := (executor.run call balancer transport).2.attempts
    let answers := executor.answers call balancer transport
    let exchanges := executor.exchanges call balancer transport
    exchanges.map Exchange.handed = attempts.filterMap Attempt.handed ∧
    (∀ i attempt, attempts[i]? = some attempt →
      answers[i / perServer]? = some (some attempt.server) ∧
      match bindUri executor.config executor.introspector attempt.server request.uri with
      | .error error => attempt.handed = none ∧ attempt.fate = .unbound error
      | .ok uri => ∃ sent, attempt.handed = some (sent, executor.effectiveTimeouts override) ∧
          sent.uri = uri ∧ sent.method = request.method ∧ sent.headers = request.headers ∧
          sent.body = request.body ∧ sent.charset = request.charset) ∧
    ∀ response, verdict = .answered response →
      ∃ last, exchanges.getLast? = some last ∧ response.requestedUri = last.request.uri := by
  intro call perServer verdict attempts answers exchanges
  have recorded := executor.run_recorded call balancer transport
  refine ⟨recorded.handed, fun i attempt found => ⟨recorded.chosen i attempt found, ?_⟩,
    fun response => executor.run_requestedUri call balancer transport⟩
  -- What an attempt hands over is the request with another URI in it.
  have delivered := recorded.delivered attempt (List.mem_of_getElem? found)
  split
  · rename_i error unbound
    exact delivered.unbound error unbound
  · rename_i uri bound
    exact ⟨request.withUri uri, delivered.bound uri bound, rfl, rfl, rfl, rfl, rfl⟩

end Executor

end ServiceCall
