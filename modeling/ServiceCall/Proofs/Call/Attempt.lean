import ServiceCall.Call.Executor

/-! One attempt of a balanced call: either its server cannot be aimed at, or it is sent once. -/

namespace ServiceCall

/-- How an attempt goes that was sent to a URI, for a caller that has waited for a while. -/
def Call.fate (call : Call) (waited : Nat) (uri : Url) (reply : Reply) : Fate :=
  if Executor.givesUp call waited reply.took then
    .abandoned (.ofParts 0 ((Executor.patienceLeft call waited).getD 0))
  else match reply.outcome with
    | .ok response => .answered ⟨uri, response⟩ reply.took
    | .error error => .failed error reply.took

/-- How an attempt goes that was sent to a URI and waited for. -/
def Fate.ofReply (uri : Url) (reply : Reply) : Fate :=
  match reply.outcome with
  | .ok response => .answered ⟨uri, response⟩ reply.took
  | .error error => .failed error reply.took

/-- A caller without a limit waits for every reply. -/
theorem Call.fate_of_patient {call : Call} (patient : call.patience = none) (waited : Nat)
    (uri : Url) (reply : Reply) : call.fate waited uri reply = .ofReply uri reply := by
  -- Nothing is left to wait for only if there is a limit.
  simp [Call.fate, Executor.givesUp, Executor.patienceLeft, patient, Fate.ofReply]

/-- An attempt that was sent could be aimed at its server. -/
theorem Call.fate_ne_unbound (call : Call) (waited : Nat) (uri : Url) (reply : Reply)
    (error : CallError) : call.fate waited uri reply ≠ .unbound error := by
  -- Each way it can go has another name.
  unfold Call.fate
  split
  · simp
  · cases reply.outcome <;> simp

/-- Only the reply to the very URI that was sent answers an attempt. -/
theorem Call.fate_answered {call : Call} {waited : Nat} {uri : Url} {reply : Reply}
    {response : CallResponse} {elapsed : Duration}
    (answered : call.fate waited uri reply = .answered response elapsed) :
    response.requestedUri = uri ∧ reply.outcome = .ok response.response := by
  -- An abandoned attempt is not answered, and neither is a failed one.
  unfold Call.fate at answered
  split at answered
  · cases answered
  · cases outcome : reply.outcome with
    | error error => simp [outcome] at answered
    | ok arrived =>
      simp only [outcome, Fate.answered.injEq] at answered
      obtain ⟨rfl, _⟩ := answered
      exact ⟨rfl, rfl⟩

namespace Executor

variable {σ τ : Type}

/-- An attempt at a server that cannot be aimed at is noted and changes nothing else. -/
theorem attempt_unbound (executor : Executor σ τ) (call : Call) (server : Server)
    (progress : Progress σ τ) {error : CallError}
    (unbound : bindUri executor.config executor.introspector server call.request.uri =
      .error error) :
    executor.attempt call server progress =
      (.unbound error,
        { progress with attempts := progress.attempts ++ [⟨server, none, .unbound error⟩] }) := by
  rw [attempt, unbound]

/-- An attempt at any other server starts, is sent once, and is reported as it went. -/
theorem attempt_sent (executor : Executor σ τ) (call : Call) (server : Server)
    (progress : Progress σ τ) {uri : Url}
    (bound : bindUri executor.config executor.introspector server call.request.uri = .ok uri)
    {reply : Reply} {transport : τ}
    (replied : executor.transport (call.request.withUri uri) call.timeouts progress.transport =
      (reply, transport)) {fate : Fate} (went : call.fate progress.waited uri reply = fate) :
    executor.attempt call server progress =
      (fate,
        { balancer := executor.report server fate
            (executor.balancer.recordStart server progress.balancer)
          transport
          samples := progress.samples ++ executor.samples server fate
          attempts := progress.attempts ++
            [⟨server, some ⟨call.request.withUri uri, call.timeouts,
              executor.balancer.recordStart server progress.balancer⟩, fate⟩]
          waited := progress.waited + reply.took.toNanos }) := by
  -- The outcome carries the URI only if it is a response.
  subst went
  rw [attempt, bound]
  simp only [send, replied, Call.fate]
  cases reply.outcome <;> rfl

/-- An attempt is noted without being sent, or it starts, is sent once, and is reported. -/
theorem attempt_cases (executor : Executor σ τ) (call : Call) (server : Server)
    (progress : Progress σ τ) :
    (∃ error,
      bindUri executor.config executor.introspector server call.request.uri = .error error ∧
      executor.attempt call server progress =
        (.unbound error,
          { progress with attempts := progress.attempts ++ [⟨server, none, .unbound error⟩] })) ∨
    ∃ uri reply transport,
      bindUri executor.config executor.introspector server call.request.uri = .ok uri ∧
      executor.transport (call.request.withUri uri) call.timeouts progress.transport =
        (reply, transport) ∧
      executor.attempt call server progress =
        (call.fate progress.waited uri reply,
          { balancer := executor.report server (call.fate progress.waited uri reply)
              (executor.balancer.recordStart server progress.balancer)
            transport
            samples := progress.samples ++
              executor.samples server (call.fate progress.waited uri reply)
            attempts := progress.attempts ++
              [⟨server, some ⟨call.request.withUri uri, call.timeouts,
                executor.balancer.recordStart server progress.balancer⟩,
                call.fate progress.waited uri reply⟩]
            waited := progress.waited + reply.took.toNanos }) := by
  -- Either the request can be aimed at the server, or the attempt ends there.
  cases bound : bindUri executor.config executor.introspector server call.request.uri with
  | error error => exact .inl ⟨error, rfl, executor.attempt_unbound call server progress bound⟩
  | ok uri =>
    exact .inr ⟨uri, _, _, rfl, rfl, executor.attempt_sent call server progress bound rfl rfl⟩

end Executor

end ServiceCall
