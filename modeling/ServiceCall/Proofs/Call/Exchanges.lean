import ServiceCall.Proofs.Call.Remembering

/-!
What a call records of its attempts is what happened: an attempt was sent exactly if its server can
be aimed at, and the transport was handed the requests that were sent and no others.
-/

namespace ServiceCall

variable {σ τ : Type}

/-- An attempt records what became of aiming the request of a call at its server. -/
structure Attempt.Genuine (executor : Executor σ τ) (call : Call) (attempt : Attempt σ) :
    Prop where
  unbound : ∀ error, bindUri executor.config executor.introspector attempt.server
      call.request.uri = .error error → attempt.sending = none ∧ attempt.fate = .unbound error
  sent : ∀ uri, bindUri executor.config executor.introspector attempt.server
      call.request.uri = .ok uri →
    ∃ sending, attempt.sending = some sending ∧ sending.request = call.request.withUri uri ∧
      sending.timeouts = call.timeouts ∧
      ∃ waited reply, attempt.fate = call.fate waited uri reply

/-- An attempt of a caller that waits was sent and had an outcome, or could not be aimed. -/
theorem Attempt.Genuine.complete {executor : Executor σ τ} {call : Call} {attempt : Attempt σ}
    (genuine : attempt.Genuine executor call) (patient : call.patience = none) :
    (attempt.sending = none ↔ ∃ error, attempt.fate = .unbound error) ∧
      ∀ elapsed, attempt.fate ≠ .abandoned elapsed := by
  -- Whether the URI could be aimed at the server decides between the two.
  cases bound : bindUri executor.config executor.introspector attempt.server
      call.request.uri with
  | error error =>
    obtain ⟨unsent, fate⟩ := genuine.unbound error bound
    exact ⟨⟨fun _ => ⟨error, fate⟩, fun _ => unsent⟩, by simp [fate]⟩
  | ok uri =>
    obtain ⟨sending, sent, _, _, waited, reply, went⟩ := genuine.sent uri bound
    refine ⟨⟨by simp [sent], ?_⟩, ?_⟩
    · rintro ⟨error, unbound⟩
      exact absurd (went ▸ unbound) (call.fate_ne_unbound waited uri reply error)
    · -- Whoever waits does not give up.
      rw [went, call.fate_of_patient patient, Fate.ofReply]
      cases reply.outcome <;> simp

/-- What was handed to the transport in an attempt, if anything was. -/
def Attempt.handed (attempt : Attempt σ) : Option (Request × Timeouts) :=
  attempt.sending.map fun sending => (sending.request, sending.timeouts)

/-- What an attempt handed over is no part of what is forgotten of it. -/
theorem Attempt.handed_forget (attempt : Attempt (σ × List (Option Server))) :
    attempt.forget.handed = attempt.handed := by
  -- Only the state of the balancer is forgotten, which was not handed over.
  rw [handed, handed, forget, Option.map_map]
  rfl

/-- What was handed to the transport in an exchange. -/
def Exchange.handed (exchange : Exchange) : Request × Timeouts :=
  (exchange.request, exchange.timeouts)

/-- The state of a transport after it was handed one more request. -/
def Transport.feed (transport : Transport τ) (state : τ) (handed : Request × Timeouts) : τ :=
  (transport handed.1 handed.2 state).2

/-- A transport forgets no exchange, whatever else it is handed. -/
theorem Transport.prefix_feed (transport : Transport τ) (handed : List (Request × Timeouts))
    (state : τ × List Exchange) :
    state.2 <+: (handed.foldl transport.remembering.feed state).2 := by
  -- The induction is on what is handed over, each of which adds one exchange at the end.
  induction handed generalizing state with
  | nil => exact List.prefix_rfl
  | cons first rest ih =>
    -- The new exchange stands behind those that are remembered already.
    have one : state.2 <+: (transport.remembering.feed state first).2 := List.prefix_append ..
    exact one.trans (ih _)

/-- How the attempt of an exchange went, for a caller that waits for every reply. -/
def Exchange.fate (exchange : Exchange) : Fate :=
  .ofReply exchange.request.uri exchange.reply

namespace Executor

/-- An attempt is recorded behind the earlier ones, with its server and as it went. -/
theorem attempt_recorded (executor : Executor σ τ) (call : Call) (server : Server)
    (progress : Progress σ τ) :
    ∃ attempt, attempt.server = server ∧ attempt.Genuine executor call ∧
      (executor.attempt call server progress).1 = attempt.fate ∧
      (executor.attempt call server progress).2.attempts = progress.attempts ++ [attempt] := by
  rcases executor.attempt_cases call server progress with
    ⟨error, bound, made⟩ | ⟨uri, reply, transport, bound, _, made⟩
  · -- Nothing was sent, and the record says so.
    rw [made]
    exact ⟨_, rfl, ⟨by simp [bound], by simp [bound]⟩, rfl, rfl⟩
  · -- The record keeps what was sent, and what became of the reply.
    rw [made]
    refine ⟨_, rfl, ⟨by simp [bound], fun aimed same => ?_⟩, rfl, rfl⟩
    obtain rfl : uri = aimed := by simpa [bound] using same
    exact ⟨_, rfl, rfl, rfl, progress.waited, reply, rfl⟩

/-- A new attempt keeps the record of a call genuine. -/
theorem attempt_genuine (executor : Executor σ τ) (call : Call) (server : Server)
    (progress : Progress σ τ)
    (genuine : ∀ attempt ∈ progress.attempts, attempt.Genuine executor call) :
    ∀ attempt ∈ (executor.attempt call server progress).2.attempts,
      attempt.Genuine executor call := by
  -- Only the attempt at the end is new.
  obtain ⟨last, _, real, _, attempts⟩ := executor.attempt_recorded call server progress
  rw [attempts]
  intro attempt member
  rcases List.mem_append.mp member with earlier | new
  · exact genuine attempt earlier
  · obtain rfl := List.mem_singleton.mp new
    exact real

/-- Every attempt of a call is recorded as it went. -/
theorem run_genuine (executor : Executor σ τ) (call : Call) (balancer : σ) (transport : τ) :
    ∀ attempt ∈ (executor.run call balancer transport).2.attempts,
      attempt.Genuine executor call :=
  executor.run_attempts call _ (executor.attempt_genuine call) balancer transport

/--
What can be told of an exchange can be told of the attempt it belongs to, and nothing can be told of
an attempt without an exchange.
-/
structure Tells {α : Type} (call : Call) (ofAttempt : Attempt σ → Option α)
    (ofExchange : Exchange → α) : Prop where
  unsent : ∀ server error, ofAttempt ⟨server, none, .unbound error⟩ = none
  sent : ∀ server uri started waited reply,
    ofAttempt ⟨server, some ⟨call.request.withUri uri, call.timeouts, started⟩,
        call.fate waited uri reply⟩ =
      some (ofExchange ⟨call.request.withUri uri, call.timeouts, reply⟩)

/-- A new attempt adds to the memory of the transport what it adds to the record. -/
theorem Tells.attempt {α : Type} {call : Call} {ofAttempt : Attempt σ → Option α}
    {ofExchange : Exchange → α} (tells : Tells call ofAttempt ofExchange)
    (executor : Executor σ τ) (server : Server)
    (progress : Progress (σ × List (Option Server)) (τ × List Exchange))
    (before : progress.transport.2.map ofExchange =
      (progress.attempts.map Attempt.forget).filterMap ofAttempt) :
    (executor.remembering.attempt call server progress).2.transport.2.map ofExchange =
      ((executor.remembering.attempt call server progress).2.attempts.map
        Attempt.forget).filterMap ofAttempt := by
  -- An attempt that is not sent adds nothing to either side.
  cases bound : bindUri executor.config executor.introspector server call.request.uri with
  | error error =>
    rw [attempt_unbound executor.remembering call server progress bound]
    simp [before, Attempt.forget, tells.unsent]
  | ok uri =>
    -- What is sent is remembered by the transport and recorded by the call at once.
    cases replied : executor.transport (call.request.withUri uri) call.timeouts
        progress.transport.1 with
    | mk reply transport =>
      rw [attempt_sent executor.remembering call server progress bound
        (transport_remembering replied) rfl]
      simp [before, Attempt.forget, tells.sent]

/-- The memory of the transport and the record of a call tell the same. -/
theorem Tells.run {α : Type} {call : Call} {ofAttempt : Attempt σ → Option α}
    {ofExchange : Exchange → α} (tells : Tells call ofAttempt ofExchange)
    (executor : Executor σ τ) (balancer : σ) (transport : τ) :
    (executor.exchanges call balancer transport).map ofExchange =
      (executor.run call balancer transport).2.attempts.filterMap ofAttempt := by
  -- Choices and counted retries leave both the memory and the record alone.
  have kept : executor.remembering.Kept call fun progress =>
      progress.transport.2.map ofExchange =
        (progress.attempts.map Attempt.forget).filterMap ofAttempt :=
    ⟨fun _ _ _ before _ => ⟨before, fun server _ =>
      ⟨fun progress => tells.attempt executor server progress, fun _ _ same => same⟩⟩⟩
  rw [run_remembering]
  exact kept.run rfl

/-- The transport was handed the requests of the attempts that were sent, in their order. -/
theorem exchanges_handed (executor : Executor σ τ) (call : Call) (balancer : σ)
    (transport : τ) :
    (executor.exchanges call balancer transport).map Exchange.handed =
      (executor.run call balancer transport).2.attempts.filterMap Attempt.handed :=
  Tells.run ⟨fun _ _ => rfl, fun _ _ _ _ _ => rfl⟩ executor balancer transport

/-- When the caller waits for every reply, the attempts that were sent went as the replies say. -/
theorem exchanges_fate (executor : Executor σ τ) {call : Call} (patient : call.patience = none)
    (balancer : σ) (transport : τ) :
    (executor.exchanges call balancer transport).map Exchange.fate =
      (executor.run call balancer transport).2.attempts.filterMap fun attempt =>
        attempt.sending.map fun _ => attempt.fate := by
  -- The fate of such an attempt does not depend on how long the caller has waited.
  refine Tells.run ⟨fun _ _ => rfl, ?_⟩ executor balancer transport
  intro server uri started waited reply
  exact congrArg some (call.fate_of_patient patient waited uri reply)

/-- A new attempt leaves the transport as it finds it after what the attempt has handed over. -/
theorem attempt_feeds (executor : Executor σ τ) (call : Call) (server : Server)
    (progress : Progress σ τ) :
    ∃ attempt,
      (executor.attempt call server progress).2.attempts = progress.attempts ++ [attempt] ∧
      (executor.attempt call server progress).2.transport =
        ([attempt].filterMap Attempt.handed).foldl executor.transport.feed progress.transport := by
  rcases executor.attempt_cases call server progress with
    ⟨error, _, made⟩ | ⟨uri, reply, transport, _, replied, made⟩
  · -- Nothing is handed over, and the transport is left alone.
    rw [made]
    exact ⟨_, rfl, rfl⟩
  · -- The request goes to the transport in the state that the earlier ones have led to.
    rw [made]
    exact ⟨_, rfl, (congrArg Prod.snd replied).symm⟩

/-- The transport of a call has been handed the requests of its attempts, and nothing else. -/
theorem run_feeds (executor : Executor σ τ) (call : Call) (balancer : σ) (transport : τ) :
    (executor.run call balancer transport).2.transport =
      ((executor.run call balancer transport).2.attempts.filterMap Attempt.handed).foldl
        executor.transport.feed transport := by
  -- Choices and counted retries hand nothing over.
  have kept : executor.Kept call fun progress => progress.transport =
      (progress.attempts.filterMap Attempt.handed).foldl executor.transport.feed transport := by
    refine ⟨fun _ _ _ before _ =>
      ⟨before, fun server _ => ⟨fun progress same => ?_, fun _ _ same => same⟩⟩⟩
    obtain ⟨attempt, attempts, fed⟩ := executor.attempt_feeds call server progress
    rw [attempts, fed, List.filterMap_append, List.foldl_append, ← same]
  exact kept.run rfl

/-- The exchanges of a call are what its transport makes of the requests that it is handed. -/
theorem exchanges_fed (executor : Executor σ τ) (call : Call) (balancer : σ) (transport : τ) :
    executor.exchanges call balancer transport =
      (((executor.run call balancer transport).2.attempts.filterMap Attempt.handed).foldl
        executor.transport.remembering.feed (transport, [])).2 := by
  have fed := executor.remembering.run_feeds call (balancer, []) (transport, [])
  -- To forget what was remembered changes nothing of what was handed over.
  have same : (executor.run call balancer transport).2.attempts.filterMap Attempt.handed =
      (executor.remembering.run call (balancer, []) (transport, [])).2.attempts.filterMap
        Attempt.handed := by
    rw [run_remembering]
    simp only [Progress.forget, List.filterMap_map]
    exact congrArg (List.filterMap · _) (funext Attempt.handed_forget)
  rw [same]
  exact congrArg Prod.snd fed

/-- A call that hands over the first requests of another one has the first of its exchanges. -/
theorem exchanges_prefix (executor : Executor σ τ) {call other : Call} {balancer : σ}
    {transport : τ}
    (first : (executor.run call balancer transport).2.attempts.filterMap Attempt.handed <+:
      (executor.run other balancer transport).2.attempts.filterMap Attempt.handed) :
    executor.exchanges call balancer transport <+: executor.exchanges other balancer transport := by
  -- The transport is fed the same requests first, and forgets none when it is fed more.
  obtain ⟨more, whole⟩ := first
  rw [exchanges_fed, exchanges_fed executor other, ← whole, List.foldl_append]
  exact Transport.prefix_feed executor.transport more _

end Executor

end ServiceCall
