import ServiceCall.Proofs.Call.Attempt
import ServiceCall.Proofs.Call.Loop

/-!
Executors that keep more than others do. An executor whose balancer and transport do what those of
another one do, and keep something beside it, makes the same calls.
-/

namespace ServiceCall

variable {σ τ σ' τ' : Type}

/-- The attempt with another view of what the balancer kept when it was sent. -/
def Attempt.map (view : σ' → σ) (attempt : Attempt σ') : Attempt σ :=
  { server := attempt.server
    sending := attempt.sending.map fun sending =>
      ⟨sending.request, sending.timeouts, view sending.balancer⟩
    fate := attempt.fate }

/-- The progress with another view of what the balancer and the transport keep. -/
def Progress.map (view : σ' → σ) (transportView : τ' → τ) (progress : Progress σ' τ') :
    Progress σ τ :=
  { balancer := view progress.balancer
    transport := transportView progress.transport
    samples := progress.samples
    attempts := progress.attempts.map (Attempt.map view)
    waited := progress.waited }

namespace Executor

/--
An executor that does what a plain one does. Its balancer and its transport give the same answers,
and what they keep can be viewed as what those of the plain one keep.
-/
structure Simulates (detailed : Executor σ' τ') (plain : Executor σ τ) (view : σ' → σ)
    (transportView : τ' → τ) : Prop where
  config : detailed.config = plain.config
  introspector : detailed.introspector = plain.introspector
  choose : ∀ key state, plain.balancer.choose key (view state) =
    (detailed.balancer.choose key state).map id view
  recordStart : ∀ server state,
    plain.balancer.recordStart server (view state) =
      view (detailed.balancer.recordStart server state)
  recordResult : ∀ server elapsed success state,
    plain.balancer.recordResult server elapsed success (view state) =
      view (detailed.balancer.recordResult server elapsed success state)
  recordRelease : ∀ server state,
    plain.balancer.recordRelease server (view state) =
      view (detailed.balancer.recordRelease server state)
  transport : ∀ request timeouts state,
    plain.transport request timeouts (transportView state) =
      (detailed.transport request timeouts state).map id transportView

namespace Simulates

variable {detailed : Executor σ' τ'} {plain : Executor σ τ} {view : σ' → σ}
  {transportView : τ' → τ}

/-- Both balancers are told the same of an attempt. -/
theorem report (simulates : detailed.Simulates plain view transportView) (server : Server)
    (fate : Fate) (state : σ') :
    plain.report server fate (view state) = view (detailed.report server fate state) := by
  cases fate with
  | unbound error => rfl
  | answered response elapsed => exact simulates.recordResult server elapsed _ state
  | failed error elapsed =>
    -- The failure alone decides between a result and a release.
    rw [Executor.report, Executor.report]
    split
    · exact simulates.recordResult server elapsed false state
    · exact simulates.recordRelease server state
  | abandoned elapsed => exact simulates.recordResult server elapsed false state

/-- Both executors are clients of the same name. -/
theorem clientName (simulates : detailed.Simulates plain view transportView) :
    plain.clientName = detailed.clientName := by
  -- The name is part of the configuration.
  rw [Executor.clientName, Executor.clientName, simulates.config]

/-- Both emit the same samples for an attempt. -/
theorem samples (simulates : detailed.Simulates plain view transportView) (server : Server)
    (fate : Fate) : plain.samples server fate = detailed.samples server fate := by
  -- The name of the client is all that they take from the executor.
  cases fate <;> simp only [Executor.samples, simulates.clientName]

/-- Both have the same policy for a request. -/
theorem retryPolicy (simulates : detailed.Simulates plain view transportView)
    (request : Request) : plain.retryPolicy request = detailed.retryPolicy request := by
  -- The policy is told by the configuration and the request alone.
  rw [Executor.retryPolicy, Executor.retryPolicy, simulates.config]

/-- Both count a retry alike. -/
theorem countRetry (simulates : detailed.Simulates plain view transportView) (sameServer : Bool)
    (progress : Progress σ' τ') :
    plain.countRetry sameServer (progress.map view transportView) =
      (detailed.countRetry sameServer progress).map view transportView := by
  -- The sample of a retry names the client, and nothing else is changed.
  rw [Executor.countRetry, Executor.countRetry, simulates.clientName]
  rfl

/-- An attempt goes alike, and both keep the same afterwards. -/
theorem attempt (simulates : detailed.Simulates plain view transportView) (call : Call)
    (server : Server) (progress : Progress σ' τ') :
    plain.attempt call server (progress.map view transportView) =
      ((detailed.attempt call server progress).1,
        (detailed.attempt call server progress).2.map view transportView) := by
  -- Both executors aim at servers alike, and both transports give the same reply.
  have aimed : bindUri plain.config plain.introspector server call.request.uri =
      bindUri detailed.config detailed.introspector server call.request.uri := by
    rw [simulates.config, simulates.introspector]
  cases bound : bindUri detailed.config detailed.introspector server call.request.uri with
  | error error =>
    rw [attempt_unbound plain call server _ (aimed.trans bound),
      attempt_unbound detailed call server progress bound]
    simp [Progress.map, Attempt.map]
  | ok uri =>
    cases replied : detailed.transport (call.request.withUri uri) call.timeouts
        progress.transport with
    | mk reply transport =>
      have alike : plain.transport (call.request.withUri uri) call.timeouts
          (transportView progress.transport) = (reply, transportView transport) := by
        rw [simulates.transport, replied]
        rfl
      rw [attempt_sent plain call server _ (aimed.trans bound) alike rfl,
        attempt_sent detailed call server progress bound replied rfl]
      simp [Progress.map, Attempt.map, simulates.recordStart, simulates.report, simulates.samples]

/-- The attempts at one server go alike. -/
theorem tryServer (simulates : detailed.Simulates plain view transportView) (call : Call)
    {policy : RetryPolicy} (onSame : policy.onSameServer = true) (server : Server)
    (retries : Nat) (progress : Progress σ' τ') :
    plain.tryServer call policy server retries (progress.map view transportView) =
      ((detailed.tryServer call policy server retries progress).1,
        (detailed.tryServer call policy server retries progress).2.map view transportView) := by
  -- The induction is on the retries that are left.
  induction retries generalizing progress with
  | zero => rw [tryServer_zero, tryServer_zero, simulates.attempt]
  | succ retries ih =>
    rw [tryServer_succ plain call onSame, tryServer_succ detailed call onSame, simulates.attempt]
    split
    · -- Both count the retry, and are alike from there by the induction.
      rw [simulates.countRetry]
      exact ih (detailed.countRetry true _)
    · rfl

/-- The attempts at one server after another go alike. -/
theorem tryServers (simulates : detailed.Simulates plain view transportView) (call : Call)
    {policy : RetryPolicy} (onSame : policy.onSameServer = true) (moves : Nat)
    (onNext : 0 < moves → policy.onNextServer = true) (progress : Progress σ' τ') :
    plain.tryServers call policy moves (progress.map view transportView) =
      ((detailed.tryServers call policy moves progress).1,
        (detailed.tryServers call policy moves progress).2.map view transportView) := by
  -- The induction is on the moves that are left; both executors are given the same answers.
  induction moves using Nat.strongRecOn generalizing progress with
  | ind moves ih =>
    cases asked : detailed.balancer.choose (some detailed.clientName) progress.balancer with
    | mk answer balancer =>
      have alike : plain.balancer.choose (some plain.clientName) (view progress.balancer) =
          (answer, view balancer) := by
        rw [simulates.choose, simulates.clientName, asked]
        rfl
      cases answer with
      | none =>
        -- Without a server, both end at once.
        rw [tryServers_none plain call policy moves (progress.map view transportView) alike,
          tryServers_none detailed call policy moves progress asked, simulates.clientName]
        rfl
      | some server =>
        have visit := simulates.tryServer call onSame server policy.sameServerRetries
          { progress with balancer }
        rw [tryServers_some plain call onNext (progress.map view transportView) alike visit,
          tryServers_some detailed call onNext progress asked rfl]
        split
        · -- Both move on, and are alike from there by the induction.
          rename_i goes
          rw [simulates.countRetry]
          exact ih (moves - 1) (by omega) (fun _ => onNext goes.1) (detailed.countRetry false _)
        · -- Both stop, and have made as many attempts.
          simp [Progress.map]

/-- A call goes alike, and both keep the same afterwards. -/
theorem run (simulates : detailed.Simulates plain view transportView) (call : Call)
    (balancer : σ') (transport : τ') :
    plain.run call (view balancer) (transportView transport) =
      ((detailed.run call balancer transport).1,
        (detailed.run call balancer transport).2.map view transportView) := by
  -- A call is the loop under the same policy, from states that are alike.
  rw [Executor.run, Executor.run, simulates.retryPolicy]
  exact simulates.tryServers call rfl _ retryPolicy_onNextServer { balancer, transport }

end Simulates

end Executor

end ServiceCall
