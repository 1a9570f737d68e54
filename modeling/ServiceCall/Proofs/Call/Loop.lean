import ServiceCall.Call.Executor

/-!
The two loops of a balanced call, one turn at a time. What every choice, every attempt and every
counted retry keeps, the whole call keeps.
-/

namespace ServiceCall

/-- Whether a verdict is a failure that may be repeated. -/
def Verdict.isRepeatable : Verdict → Bool
  | .failed error => error.isRetriable
  | .answered _ | .abandoned => false

/-- The verdict of a call that ends after some attempts, the last of which had this verdict. -/
def Verdict.ofCall (attempts : Nat) : Verdict → Verdict
  | .failed error => .failed (Executor.exhausted attempts error)
  | .answered response => .answered response
  | .abandoned => .abandoned

/-- The verdict on one attempt. -/
def Fate.verdict : Fate → Verdict
  | .answered response _ => .answered response
  | .unbound error | .failed error _ => .failed error
  | .abandoned _ => .abandoned

/-- A call is answered by its last attempt, however many there were. -/
theorem Verdict.ofCall_answered {attempts : Nat} {fate : Fate} {response : CallResponse}
    (answered : fate.verdict.ofCall attempts = .answered response) :
    ∃ elapsed, fate = .answered response elapsed := by
  -- Counting the attempts rewrites failures only.
  cases fate with
  | answered own elapsed =>
    obtain rfl := Verdict.answered.inj answered
    exact ⟨elapsed, rfl⟩
  | unbound error => cases answered
  | failed error elapsed => cases answered
  | abandoned elapsed => cases answered

/-- A policy that allows repeats at a server leaves the decision to the failure. -/
theorem RetryPolicy.mayRetry_same {policy : RetryPolicy} (onSame : policy.onSameServer = true)
    (error : CallError) : policy.mayRetry error true = error.isRetriable := by
  simp [RetryPolicy.mayRetry, onSame]

/-- A policy that allows moves to other servers leaves the decision to the failure. -/
theorem RetryPolicy.mayRetry_next {policy : RetryPolicy} (onNext : policy.onNextServer = true)
    (error : CallError) : policy.mayRetry error false = error.isRetriable := by
  simp [RetryPolicy.mayRetry, onNext]

namespace Executor

variable {σ τ : Type}

/-- Without a retry left, the only attempt at a server decides. -/
theorem tryServer_zero (executor : Executor σ τ) (call : Call) (policy : RetryPolicy)
    (server : Server) (progress : Progress σ τ) :
    executor.tryServer call policy server 0 progress =
      ((executor.attempt call server progress).1.verdict,
        (executor.attempt call server progress).2) := by
  -- Each way an attempt can go stands for itself.
  rw [tryServer]
  cases attempted : executor.attempt call server progress with
  | mk fate next => cases fate <;> rfl

/-- With a retry left, an attempt that may be repeated is counted and repeated. -/
theorem tryServer_succ (executor : Executor σ τ) (call : Call) {policy : RetryPolicy}
    (onSame : policy.onSameServer = true) (server : Server) (retries : Nat)
    (progress : Progress σ τ) :
    executor.tryServer call policy server (retries + 1) progress =
      if (executor.attempt call server progress).1.verdict.isRepeatable then
        executor.tryServer call policy server retries
          (executor.countRetry true (executor.attempt call server progress).2)
      else ((executor.attempt call server progress).1.verdict,
        (executor.attempt call server progress).2) := by
  -- Only the two kinds of failure ask the policy, which looks at the failure alone.
  rw [tryServer]
  cases attempted : executor.attempt call server progress with
  | mk fate next =>
    cases fate <;> simp only [policy.mayRetry_same onSame] <;> rfl

/-- Without an answer from the balancer, a call ends at once. -/
theorem tryServers_none (executor : Executor σ τ) (call : Call) (policy : RetryPolicy)
    (moves : Nat) (progress : Progress σ τ) {balancer : σ}
    (asked : executor.balancer.choose (some executor.clientName) progress.balancer =
      (none, balancer)) :
    executor.tryServers call policy moves progress =
      (.failed (.noServer executor.clientName), { progress with balancer }) := by
  -- The number of moves left is not looked at.
  rw [tryServers, asked]

/--
With a move left, a failure that may be repeated is counted and taken to another server. In all
other cases the attempts at the chosen server decide.
-/
theorem tryServers_some (executor : Executor σ τ) (call : Call) {policy : RetryPolicy}
    {moves : Nat} (onNext : 0 < moves → policy.onNextServer = true) (progress : Progress σ τ)
    {server : Server} {balancer : σ}
    (asked : executor.balancer.choose (some executor.clientName) progress.balancer =
      (some server, balancer)) {verdict : Verdict} {next : Progress σ τ}
    (tried : executor.tryServer call policy server policy.sameServerRetries
      { progress with balancer } = (verdict, next)) :
    executor.tryServers call policy moves progress =
      if 0 < moves ∧ verdict.isRepeatable then
        executor.tryServers call policy (moves - 1) (executor.countRetry false next)
      else (verdict.ofCall next.attempts.length, next) := by
  -- The visit is the same in both cases, and the moves that are left decide what follows it.
  rw [tryServers, asked]
  simp only [tried]
  cases moves with
  | zero =>
    -- A failure is reported with the number of attempts, any other verdict as it is.
    rw [if_neg (by simp)]
    cases verdict <;> rfl
  | succ moves =>
    -- Only a failure asks the policy, which looks at the failure alone.
    have allowed := policy.mayRetry_next (onNext (Nat.succ_pos moves))
    cases verdict <;> simp [allowed, Verdict.isRepeatable, Verdict.ofCall]

/-- A property of the progress of a call that attempts at a server and counted retries keep. -/
structure KeptAt (executor : Executor σ τ) (call : Call) (server : Server)
    (property : Progress σ τ → Prop) : Prop where
  attempt : ∀ progress, property progress → property (executor.attempt call server progress).2
  countRetry : ∀ sameServer progress, property progress →
    property (executor.countRetry sameServer progress)

/-- A property that every choice keeps, as do the attempts at a server that was chosen. -/
structure Kept (executor : Executor σ τ) (call : Call) (property : Progress σ τ → Prop) :
    Prop where
  choose : ∀ progress answer balancer, property progress →
    executor.balancer.choose (some executor.clientName) progress.balancer = (answer, balancer) →
    property { progress with balancer } ∧ ∀ server ∈ answer, executor.KeptAt call server property

variable {executor : Executor σ τ} {call : Call} {property : Progress σ τ → Prop}

/-- All the attempts at one server keep what each of them keeps. -/
theorem KeptAt.tryServer {server : Server} (kept : executor.KeptAt call server property)
    {policy : RetryPolicy} (onSame : policy.onSameServer = true) (retries : Nat)
    (progress : Progress σ τ) (before : property progress) :
    property (executor.tryServer call policy server retries progress).2 := by
  -- The induction is on the retries that are left.
  induction retries generalizing progress with
  | zero =>
    rw [tryServer_zero]
    exact kept.attempt progress before
  | succ retries ih =>
    have attempted := kept.attempt progress before
    rw [tryServer_succ executor call onSame]
    split
    · -- The retry is counted first, and the attempts that follow start from there.
      exact ih _ (kept.countRetry true _ attempted)
    · exact attempted

/-- The attempts at one server after another keep what every step keeps. -/
theorem Kept.tryServers (kept : executor.Kept call property) {policy : RetryPolicy}
    (onSame : policy.onSameServer = true) (moves : Nat)
    (onNext : 0 < moves → policy.onNextServer = true) (progress : Progress σ τ)
    (before : property progress) :
    property (executor.tryServers call policy moves progress).2 := by
  -- The induction is on the moves that are left; a choice without an answer ends the call.
  induction moves using Nat.strongRecOn generalizing progress with
  | ind moves ih =>
    cases asked : executor.balancer.choose (some executor.clientName) progress.balancer with
    | mk answer balancer =>
      obtain ⟨ready, suitable⟩ := kept.choose progress answer balancer before asked
      cases answer with
      | none => rw [tryServers_none executor call policy moves progress asked]; exact ready
      | some server =>
        -- The visit keeps the property, and so does the count of the move after it.
        have atServer := suitable server rfl
        have visited := atServer.tryServer onSame policy.sameServerRetries _ ready
        rw [tryServers_some executor call onNext progress asked rfl]
        split
        · rename_i goes
          exact ih (moves - 1) (by omega) (fun _ => onNext goes.1) _
            (atServer.countRetry false _ visited)
        · exact visited

/-- A call has moves only if its policy lets it leave a server. -/
theorem retryPolicy_onNextServer {executor : Executor σ τ} {request : Request}
    (moves : 0 < (executor.retryPolicy request).nextServerRetries) :
    (executor.retryPolicy request).onNextServer = true := by
  -- Otherwise the number of moves is zero.
  cases allowed : (executor.retryPolicy request).onNextServer with
  | true => rfl
  | false => simp [RetryPolicy.nextServerRetries, allowed] at moves

/-- A call may move if it only reads, or if its client repeats everything. -/
theorem retryPolicy_moves (executor : Executor σ τ) (request : Request) :
    (executor.retryPolicy request).nextServerRetries =
      if request.method = .get ∨ executor.config.retryAllOperations = true then
        executor.config.nextServerRetries
      else 0 := by
  -- The policy tests the same two conditions in the other order.
  simp [RetryPolicy.nextServerRetries, retryPolicy, RetryBounds.ofConfig, or_comm]

/-- A whole call keeps what every step keeps. -/
theorem Kept.run (kept : executor.Kept call property) {balancer : σ} {transport : τ}
    (start : property { balancer, transport }) :
    property (executor.run call balancer transport).2 :=
  -- A call always may repeat at a server, and it has moves only if it may move.
  kept.tryServers rfl _ retryPolicy_onNextServer _ start

/-- What holds of every new attempt, whatever went before, holds of all attempts of a call. -/
theorem run_attempts (executor : Executor σ τ) (call : Call) (holds : Attempt σ → Prop)
    (new : ∀ server progress, (∀ attempt ∈ progress.attempts, holds attempt) →
      ∀ attempt ∈ (executor.attempt call server progress).2.attempts, holds attempt)
    (balancer : σ) (transport : τ) :
    ∀ attempt ∈ (executor.run call balancer transport).2.attempts, holds attempt := by
  -- Choices and counted retries leave the record of attempts alone.
  have kept : executor.Kept call fun progress => ∀ attempt ∈ progress.attempts, holds attempt :=
    ⟨fun _ _ _ before _ =>
      ⟨before, fun server _ => ⟨fun progress => new server progress, fun _ _ same => same⟩⟩⟩
  exact kept.run (by simp)

end Executor

end ServiceCall
