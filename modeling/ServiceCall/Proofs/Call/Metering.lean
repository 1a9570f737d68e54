import ServiceCall.Proofs.Call.Operations
import ServiceCall.Proofs.Call.Retries
import ServiceCall.Proofs.Call.Statistics

/-!
The samples that one call emits. Those of its attempts can be told from the attempts, and each
retry is counted once, for one more attempt at the same server or for the choice of another one.
-/

namespace ServiceCall

variable {σ τ : Type}

/-- Samples of a kind that an attempt emits once if it went in some way, and that no retry emits. -/
structure Tallies (executor : Executor σ τ) (kind : Sample → Bool) (went : Server → Fate → Bool) :
    Prop where
  attempt : ∀ server fate,
    (executor.samples server fate).countP kind = if went server fate then 1 else 0
  retry : ∀ sameServer, kind (.retry executor.clientName sameServer) = false

namespace Executor

/-- An attempt adds itself to the record, and the samples of how it went. -/
theorem attempt_samples (executor : Executor σ τ) (call : Call) (server : Server)
    (progress : Progress σ τ) :
    ∃ attempt, attempt.server = server ∧
      (executor.attempt call server progress).2.attempts = progress.attempts ++ [attempt] ∧
      (executor.attempt call server progress).2.samples =
        progress.samples ++ executor.samples server attempt.fate := by
  rcases executor.attempt_cases call server progress with
    ⟨error, _, made⟩ | ⟨uri, reply, transport, _, _, made⟩
  · -- An attempt that is not sent emits nothing.
    rw [made]
    exact ⟨_, rfl, rfl, (List.append_nil _).symm⟩
  · -- An attempt that is sent emits what its fate says.
    rw [made]
    exact ⟨_, rfl, rfl, rfl⟩

end Executor

/-- The samples of a kind are as many as the attempts that went in the way that emits one. -/
theorem Tallies.run {executor : Executor σ τ} {kind : Sample → Bool}
    {went : Server → Fate → Bool} (tallies : Tallies executor kind went) (call : Call)
    (balancer : σ) (transport : τ) :
    (executor.run call balancer transport).2.samples.countP kind =
      (executor.run call balancer transport).2.attempts.countP fun attempt =>
        went attempt.server attempt.fate := by
  -- Each attempt adds as much to both sides, and choices and counted retries add nothing.
  have kept : executor.Kept call fun progress =>
      progress.samples.countP kind =
        progress.attempts.countP fun attempt => went attempt.server attempt.fate := by
    refine ⟨fun _ _ _ before _ => ⟨before, fun server _ => ⟨fun progress same => ?_, ?_⟩⟩⟩
    · obtain ⟨attempt, rfl, attempts, samples⟩ := executor.attempt_samples call server progress
      rw [attempts, samples, List.countP_append, List.countP_append, List.countP_singleton, same,
        tallies.attempt]
    · -- The only other sample that is emitted is of a kind that does not count.
      intro sameServer progress same
      simpa [Executor.countRetry, tallies.retry] using same
  exact kept.run rfl

namespace Executor

/-- A call over a pool without a reachable server ends before its first attempt. -/
theorem run_unreachable (executor : Executor Pool τ) (pooled : executor.balancer = Pool.balancer)
    (call : Call) {pool : Pool} (unreachable : pool.reachable = []) (transport : τ) :
    executor.answers call pool transport = [none] ∧
      (executor.run call pool transport).2.attempts = [] ∧
      (executor.run call pool transport).2.samples = [] := by
  -- The pool has no server to offer.
  have refused := pool.choose_eq_none.mpr unreachable
  have asked :
      executor.balancer.choose (some executor.clientName) pool = (none, pool.choose.2) := by
    rw [pooled]
    exact Prod.ext refused rfl
  -- The first choice is the only step, whether it is remembered or not.
  have plain := executor.tryServers_none call (executor.retryPolicy call.request)
    (executor.retryPolicy call.request).nextServerRetries { balancer := pool, transport } asked
  have remembered := executor.remembering.tryServers_none call
    (executor.retryPolicy call.request) (executor.retryPolicy call.request).nextServerRetries
    { balancer := (pool, []), transport := (transport, []) } (choose_remembering asked)
  refine ⟨?_, ?_, ?_⟩
  · exact congrArg (·.2.balancer.2) remembered
  · exact congrArg (·.2.attempts) plain
  · exact congrArg (·.2.samples) plain

end Executor

end ServiceCall
