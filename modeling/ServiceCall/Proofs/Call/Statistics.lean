import ServiceCall.Proofs.Balancer.Totals
import ServiceCall.Proofs.Call.Accounts

/-!
What calls leave behind in the statistics of a pool: every attempt is settled on the first entry of
its server, and nothing else changes.
-/

namespace ServiceCall

/-- An attempt counts against its server if it was answered, abandoned, or failed at the server. -/
def Fate.isCounted : Fate → Bool
  | .answered _ _ | .abandoned _ => true
  | .failed error _ => error.isServerFailure
  | .unbound _ => false

/-- An attempt succeeds with a response of status 200 and in no other way. -/
def Fate.isSuccess : Fate → Bool
  | .answered response _ => response.response.status == 200
  | .unbound _ | .failed _ _ | .abandoned _ => false

namespace Tracker

/-- The tracker after a whole attempt, from its start to its end. -/
def settle (fate : Fate) (tracker : Tracker) : Tracker :=
  match fate with
  | .unbound _ => tracker
  | .answered response elapsed => tracker.start.finish elapsed response.isSuccess
  | .failed error elapsed =>
    if error.isServerFailure then tracker.start.finish elapsed false else tracker.start.release
  | .abandoned elapsed => tracker.start.finish elapsed false

/-- An attempt that ends in success or failure is one more that ended, and none more in flight. -/
theorem finish_start (tracker : Tracker) (elapsed : Duration) (success : Bool) :
    (tracker.start.finish elapsed success).server = tracker.server ∧
      (tracker.start.finish elapsed success).alive = tracker.alive ∧
      (tracker.start.finish elapsed success).active = tracker.active ∧
      (tracker.start.finish elapsed success).requests = tracker.requests + 1 ∧
      (tracker.start.finish elapsed success).errors =
        tracker.errors + if success then 0 else 1 := by
  -- Success and failure differ in the response times and the errors alone.
  cases success <;> simp [start, finish]

/-- An attempt that is released leaves nothing behind. -/
theorem release_start (tracker : Tracker) : tracker.start.release = tracker :=
  rfl

/-- An attempt that counts is finished with its success, and any other changes nothing. -/
theorem settle_cases (fate : Fate) (tracker : Tracker) :
    (fate.isCounted = false ∧ tracker.settle fate = tracker) ∨
      (fate.isCounted = true ∧
        ∃ elapsed, tracker.settle fate = tracker.start.finish elapsed fate.isSuccess) := by
  cases fate with
  | unbound error => exact .inl ⟨rfl, rfl⟩
  | answered response elapsed => exact .inr ⟨rfl, elapsed, rfl⟩
  | failed error elapsed =>
    -- The failure decides between a result and a release.
    cases counted : error.isServerFailure with
    | true => exact .inr ⟨counted, elapsed, if_pos counted⟩
    | false =>
      refine .inl ⟨counted, ?_⟩
      simp [settle, counted, release_start]
  | abandoned elapsed => exact .inr ⟨rfl, elapsed, rfl⟩

/-- An attempt leaves the server and its health alone, and nothing in flight. -/
theorem settle_kept (fate : Fate) (tracker : Tracker) :
    (tracker.settle fate).server = tracker.server ∧
      (tracker.settle fate).alive = tracker.alive ∧
      (tracker.settle fate).active = tracker.active := by
  rcases tracker.settle_cases fate with ⟨_, same⟩ | ⟨_, elapsed, finished⟩
  · rw [same]
    exact ⟨rfl, rfl, rfl⟩
  · -- The start of the attempt is taken back by its end.
    obtain ⟨server, alive, active, _⟩ := tracker.finish_start elapsed fate.isSuccess
    rw [finished]
    exact ⟨server, alive, active⟩

/-- An attempt adds to the counts of its server what it counts for. -/
theorem settle_counts (fate : Fate) (tracker : Tracker) :
    (tracker.settle fate).requests = tracker.requests + (if fate.isCounted then 1 else 0) ∧
      (tracker.settle fate).errors =
        tracker.errors + (if fate.isCounted && !fate.isSuccess then 1 else 0) := by
  rcases tracker.settle_cases fate with ⟨uncounted, same⟩ | ⟨counted, elapsed, finished⟩
  · rw [same, uncounted]
    exact ⟨rfl, rfl⟩
  · -- The attempt is an error unless it succeeded.
    obtain ⟨_, _, _, requests, errors⟩ := tracker.finish_start elapsed fate.isSuccess
    rw [finished, counted]
    refine ⟨requests, errors.trans ?_⟩
    cases fate.isSuccess <;> rfl

/-- An attempt that does not count changes nothing. -/
theorem settle_of_uncounted {fate : Fate} (uncounted : fate.isCounted = false)
    (tracker : Tracker) : tracker.settle fate = tracker := by
  -- What does not count was not sent, or it was released.
  rcases tracker.settle_cases fate with ⟨_, same⟩ | ⟨counted, _⟩
  · exact same
  · rw [uncounted] at counted
    cases counted

end Tracker

namespace Pool

variable {σ : Type}

/-- The entries of a pool after some attempts, each settled on the first entry of its server. -/
def settle (trackers : List Tracker) : List (Attempt σ) → List Tracker
  | [] => trackers
  | attempt :: rest =>
    settle (updateFirst attempt.server (Tracker.settle attempt.fate) trackers) rest

/-- Attempts are settled in their order. -/
theorem settle_append (trackers : List Tracker) (early late : List (Attempt σ)) :
    settle trackers (early ++ late) = settle (settle trackers early) late := by
  -- The induction is on the earlier attempts, each of which changes the entries for the next.
  induction early generalizing trackers with
  | nil => rfl
  | cons attempt rest ih => exact ih _

/-- What one attempt keeps of every entry, any number of them keep. -/
theorem map_settle {α : Type} (field : Tracker → α)
    (kept : ∀ fate tracker, field (Tracker.settle fate tracker) = field tracker)
    (trackers : List Tracker) (attempts : List (Attempt σ)) :
    (settle trackers attempts).map field = trackers.map field := by
  -- Each attempt is one change of one entry.
  induction attempts generalizing trackers with
  | nil => rfl
  | cons attempt rest ih =>
    rw [settle, ih, map_updateFirst field (kept attempt.fate)]

/-- The servers of a pool stay what they are. -/
theorem servers_settle (trackers : List Tracker) (attempts : List (Attempt σ)) :
    (settle trackers attempts).map (·.server) = trackers.map (·.server) :=
  map_settle (·.server) (fun fate tracker => (tracker.settle_kept fate).1) trackers attempts

/-- A total that some attempts add one to grows by the number of those attempts. -/
theorem total_settle (count : Tracker → Nat) (adds : Fate → Bool)
    (grows : ∀ fate tracker, count (Tracker.settle fate tracker) =
      count tracker + if adds fate then 1 else 0)
    {trackers : List Tracker} {attempts : List (Attempt σ)}
    (known : ∀ attempt ∈ attempts, attempt.server ∈ trackers.map (·.server)) (server : Server) :
    total count server (settle trackers attempts) = total count server trackers +
      attempts.countP fun attempt => attempt.server = server ∧ adds attempt.fate := by
  -- The first attempt meets an entry of its server, and the rest still know theirs.
  induction attempts generalizing trackers with
  | nil => rfl
  | cons attempt rest ih =>
    have kept := fun tracker : Tracker => (tracker.settle_kept attempt.fate).1
    have later : ∀ next ∈ rest, next.server ∈ (updateFirst attempt.server
        (Tracker.settle attempt.fate) trackers).map (·.server) := by
      intro next member
      rw [map_updateFirst (·.server) kept]
      exact known next (List.mem_cons_of_mem attempt member)
    rw [settle, ih later, total_updateFirst kept (grows attempt.fate)
      (known attempt List.mem_cons_self), List.countP_cons]
    by_cases here : attempt.server = server
    · -- The attempt is counted on both sides, or on neither.
      simp [here]
      omega
    · simp [here]

/-- The requests of a server grow by its attempts that count. -/
theorem requests_settle {trackers : List Tracker} {attempts : List (Attempt σ)}
    (known : ∀ attempt ∈ attempts, attempt.server ∈ trackers.map (·.server)) (server : Server) :
    total (·.requests) server (settle trackers attempts) =
      total (·.requests) server trackers +
        attempts.countP fun attempt => attempt.server = server ∧ attempt.fate.isCounted :=
  total_settle (·.requests) Fate.isCounted
    (fun fate tracker => (tracker.settle_counts fate).1) known server

/-- The errors of a server grow by its attempts that count and did not succeed. -/
theorem errors_settle {trackers : List Tracker} {attempts : List (Attempt σ)}
    (known : ∀ attempt ∈ attempts, attempt.server ∈ trackers.map (·.server)) (server : Server) :
    total (·.errors) server (settle trackers attempts) =
      total (·.errors) server trackers +
        attempts.countP fun attempt => attempt.server = server ∧
          attempt.fate.isCounted ∧ ¬attempt.fate.isSuccess := by
  -- Both conditions are read off one fate, so that they are one test of it.
  have grown := total_settle (·.errors) (fun fate => fate.isCounted && !fate.isSuccess)
    (fun fate tracker => (tracker.settle_counts fate).2) known server
  simpa using grown

/-- The entries of servers without an attempt that counts stay as they are. -/
theorem getElem?_settle_of_uncounted {trackers : List Tracker} {attempts : List (Attempt σ)}
    {i : Nat} {tracker : Tracker} (found : trackers[i]? = some tracker)
    (uncounted : ∀ attempt ∈ attempts, attempt.server = tracker.server →
      attempt.fate.isCounted = false) : (settle trackers attempts)[i]? = some tracker := by
  -- The entry is still in its place after the first attempt, and so after the rest.
  induction attempts generalizing trackers with
  | nil => exact found
  | cons attempt rest ih =>
    refine ih ?_ fun next member => uncounted next (List.mem_cons_of_mem attempt member)
    by_cases here : attempt.server = tracker.server
    · -- An attempt that does not count leaves the whole list alone.
      have idle := Tracker.settle_of_uncounted (uncounted attempt List.mem_cons_self here)
      rw [updateFirst_of_idle idle]
      exact found
    · exact getElem?_updateFirst_of_ne found (Ne.symm here)

end Pool

namespace Executor

variable {τ : Type}

/-- A pool that was told of the start and of the end of an attempt has settled it. -/
theorem report_settles {executor : Executor Pool τ} (pooled : executor.balancer = Pool.balancer)
    (server : Server) {fate : Fate} (sent : ∀ error, fate ≠ .unbound error) (pool : Pool) :
    (executor.report server fate (executor.balancer.recordStart server pool)).trackers =
      Pool.updateFirst server (Tracker.settle fate) pool.trackers := by
  -- The end of the attempt meets the entry that its start has changed.
  have same := fun change =>
    Pool.updateFirst_updateFirst server Tracker.start change (fun _ => rfl) pool.trackers
  cases fate with
  | unbound error => exact absurd rfl (sent error)
  | answered response elapsed =>
    rw [report, pooled]
    exact same (·.finish elapsed response.isSuccess)
  | failed error elapsed =>
    rw [report, pooled]
    by_cases counted : error.isServerFailure = true
    · have settled : Tracker.settle (.failed error elapsed) =
          fun tracker => tracker.start.finish elapsed false := funext fun _ => if_pos counted
      rw [if_pos counted, settled]
      exact same (·.finish elapsed false)
    · have settled : Tracker.settle (.failed error elapsed) =
          fun tracker => tracker.start.release := funext fun _ => if_neg counted
      rw [if_neg counted, settled]
      exact same Tracker.release
  | abandoned elapsed =>
    rw [report, pooled]
    exact same (·.finish elapsed false)

/-- An attempt of a call over a pool is settled there. -/
theorem attempt_settles {executor : Executor Pool τ} (pooled : executor.balancer = Pool.balancer)
    (call : Call) (server : Server) (progress : Progress Pool τ) :
    ∃ attempt, attempt.server = server ∧
      (executor.attempt call server progress).2.attempts = progress.attempts ++ [attempt] ∧
      (executor.attempt call server progress).2.balancer.trackers =
        Pool.settle progress.balancer.trackers [attempt] := by
  -- Only an attempt that was sent is told to the pool.
  rcases executor.attempt_cases call server progress with
    ⟨error, _, made⟩ | ⟨uri, reply, transport, _, _, made⟩
  · -- To settle an attempt that was not sent does nothing.
    rw [made]
    refine ⟨_, rfl, rfl, ?_⟩
    exact (Pool.updateFirst_of_idle (fun _ => rfl) _).symm
  · rw [made]
    refine ⟨_, rfl, rfl, ?_⟩
    exact report_settles pooled server (call.fate_ne_unbound progress.waited uri reply) _

/-- A call over a pool settles its attempts there, and makes them at servers of the pool. -/
theorem run_settles (executor : Executor Pool τ) (pooled : executor.balancer = Pool.balancer)
    (call : Call) (pool : Pool) (transport : τ) :
    (executor.run call pool transport).2.balancer.trackers =
        Pool.settle pool.trackers (executor.run call pool transport).2.attempts ∧
      ∀ attempt ∈ (executor.run call pool transport).2.attempts,
        attempt.server ∈ pool.trackers.map (·.server) := by
  -- A choice names a server that the pool still knows, and changes no entry.
  have kept : executor.Kept call fun progress =>
      progress.balancer.trackers = Pool.settle pool.trackers progress.attempts ∧
        ∀ attempt ∈ progress.attempts, attempt.server ∈ pool.trackers.map (·.server) := by
    refine ⟨fun progress answer next before asked => ?_⟩
    rw [pooled] at asked
    obtain ⟨same, known⟩ := Pool.choose_spec asked
    refine ⟨⟨same.trans before.1, before.2⟩, fun server offered => ⟨?_, fun _ _ same => same⟩⟩
    have member := known server offered
    rw [before.1, Pool.servers_settle] at member
    rintro progress ⟨settled, placed⟩
    obtain ⟨attempt, rfl, attempts, trackers⟩ := attempt_settles pooled call server progress
    -- The attempt is the last one to be settled, and its server is the one that was chosen.
    rw [attempts, trackers, settled, Pool.settle_append]
    refine ⟨rfl, fun each among => ?_⟩
    rcases List.mem_append.mp among with earlier | new
    · exact placed each earlier
    · obtain rfl := List.mem_singleton.mp new
      exact member
  exact kept.run ⟨rfl, by simp⟩

end Executor

namespace Pool

variable {τ : Type}

/-- Turns settle the attempts of their accounts in the pool, and make them at its servers. -/
theorem accounts_settle (turns : List (Turn τ)) (pool : Pool) (transport : τ) :
    let calls := turns.map Event.call
    let attempts := (accounts calls pool transport).flatMap Account.attempts
    (after calls pool transport).1.trackers = settle pool.trackers attempts ∧
      ∀ attempt ∈ attempts, attempt.server ∈ pool.trackers.map (·.server) := by
  -- The induction is on the turns; the pool of a later one knows the same servers.
  induction turns generalizing pool transport with
  | nil => exact ⟨rfl, by simp [accounts]⟩
  | cons turn rest ih =>
    obtain ⟨settled, placed⟩ := turn.executor.run_settles rfl turn.call pool transport
    obtain ⟨later, known⟩ := ih (turn.take pool transport).balancer
      (turn.take pool transport).transport
    refine ⟨?_, ?_⟩
    · -- The attempts of the first turn are settled before those of the others.
      rw [List.map_cons, accounts, List.flatMap_cons, settle_append]
      refine later.trans ?_
      exact congrArg (settle · _) settled
    · intro attempt member
      rw [List.map_cons, accounts, List.flatMap_cons] at member
      rcases List.mem_append.mp member with first | others
      · exact placed attempt first
      · -- The first turn has left the servers of the pool as they were.
        have served := known attempt others
        rw [Turn.take, settled, servers_settle] at served
        exact served

/-- Every attempt of some turns was sent unless it could not be aimed, and none was abandoned. -/
theorem accounts_complete (events : List (Event τ)) (pool : Pool) (transport : τ) :
    ∀ attempt ∈ (accounts events pool transport).flatMap Account.attempts,
      (attempt.sending = none ↔ ∃ error, attempt.fate = .unbound error) ∧
        ∀ elapsed, attempt.fate ≠ .abandoned elapsed := by
  -- Every attempt belongs to one of the turns, whose caller waits for every reply.
  intro attempt member
  obtain ⟨account, among, made⟩ := List.mem_flatMap.mp member
  obtain ⟨turn, before, state, rfl⟩ := exists_turn_of_mem_accounts among
  exact (turn.executor.run_genuine turn.call before state attempt made).complete rfl

/--
Calls leave no attempt in flight. Each server has ended as many attempts more as were answered or
failed at the server, and as many errors more as those of them without a status of 200; no health
flag changes, and no entry of a server without such an attempt. The attempts are those of the
accounts, which tell what the balancer and the transport have seen of each call.
-/
theorem statistics_of_calls (turns : List (Turn τ)) (pool : Pool) (transport : τ) :
    let calls := turns.map Event.call
    let accounts := accounts calls pool transport
    let attempts := accounts.flatMap Account.attempts
    let before := pool.trackers
    let after := (after calls pool transport).1.trackers
    List.Forall₂ (fun turn account => account.Tells turn) turns accounts ∧
    (∀ server,
      total (·.active) server after = total (·.active) server before ∧
      total (·.requests) server after = total (·.requests) server before +
        attempts.countP (fun attempt => attempt.server = server ∧ attempt.fate.isCounted) ∧
      total (·.errors) server after = total (·.errors) server before +
        attempts.countP (fun attempt => attempt.server = server ∧
          attempt.fate.isCounted ∧ ¬attempt.fate.isSuccess)) ∧
    after.map (·.server) = before.map (·.server) ∧
    after.map (·.alive) = before.map (·.alive) ∧
    (∀ (i : Nat) (tracker : Tracker), before[i]? = some tracker →
      (∀ attempt ∈ attempts, attempt.server = tracker.server → attempt.fate.isCounted = false) →
      after[i]? = some tracker) ∧
    ∀ attempt ∈ attempts, (attempt.sending = none ↔ ∃ error, attempt.fate = .unbound error) ∧
      ∀ elapsed, attempt.fate ≠ .abandoned elapsed := by
  intro calls accounts attempts before after
  -- All that the calls did to the pool is to settle their attempts there.
  obtain ⟨settled, known⟩ := accounts_settle turns pool transport
  rw [show after = settle before attempts from settled]
  refine ⟨accounts_tell turns pool transport,
    fun server => ⟨?_, requests_settle known server, errors_settle known server⟩,
    servers_settle before attempts, ?_, fun i tracker => getElem?_settle_of_uncounted,
    accounts_complete calls pool transport⟩
  · -- No attempt adds to the attempts in flight.
    have same := total_settle (·.active) (fun _ => false)
      (fun fate tracker => (tracker.settle_kept fate).2.2) known server
    simpa using same
  · exact map_settle (·.alive) (fun fate tracker => (tracker.settle_kept fate).2.1)
      before attempts

/--
Of three calls over two servers, the first one is answered by the first server; the reply to the
second one cannot be read, which does not count against the second server; and the third one fails
at both.
-/
theorem statistics_of_calls_released :
    let first : Server := { host := "a", port := 1 }
    let second : Server := { host := "b", port := 2 }
    let pool := ofServers "items" [first, second] .freshRoundRobin
    let uri : Url :=
      { scheme := "http", host := some (.domain "items"), path := .segments ["list"] }
    let turn : Turn Nat :=
      { config := .ofName "items"
        introspector := .standard
        transport := fun _ _ asked =>
          (⟨.zero, match asked with
            | 0 => .ok { status := 200 }
            | 1 => .error (.payload .notJson)
            | _ => .error (.io "refused")⟩, asked + 1)
        request := { method := .get, uri }
        override := none }
    let calls := [turn, turn, turn].map Event.call
    let attempts := (accounts calls pool 0).flatMap Account.attempts
    let left := (after calls pool 0).1.trackers
    (accounts calls pool 0).map (·.exchanges.length) = [1, 1, 2] ∧
      attempts.countP (·.server = second) = 2 ∧
      total (·.requests) second left = 1 ∧ total (·.errors) second left = 1 ∧
      total (·.requests) first left = 2 ∧ total (·.errors) first left = 1 ∧
      total (·.active) second left = 0 := by
  -- The counts follow from the attempts, which are found by running the calls.
  intro first second pool uri turn calls attempts left
  obtain ⟨-, counts, -⟩ := statistics_of_calls [turn, turn, turn] pool 0
  obtain ⟨active, requests, errors⟩ := counts second
  obtain ⟨-, answered, failed⟩ := counts first
  refine ⟨by decide +kernel, by decide +kernel, requests.trans ?_, errors.trans ?_,
    answered.trans ?_, failed.trans ?_, active⟩
  · decide +kernel
  · decide +kernel
  · decide +kernel
  · decide +kernel

end Pool

end ServiceCall
