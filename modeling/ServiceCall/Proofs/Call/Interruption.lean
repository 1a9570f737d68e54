import ServiceCall.Proofs.Call.Operations
import ServiceCall.Proofs.Call.Statistics

/-!
Calls that their caller drops. Up to the attempt in which the patience of the caller runs out, such
a call is the one that the caller would have waited for; this attempt ends as a failure, and nothing
follows it.
-/

namespace ServiceCall

variable {σ τ : Type}

/-- The call whose caller gives up after some time. -/
def Call.within (call : Call) (patience : Duration) : Call :=
  { call with patience := some patience }

/-- The time that an attempt waited for the transport, in nanoseconds. -/
def Fate.took : Fate → Nat
  | .unbound _ => 0
  | .answered _ elapsed | .failed _ elapsed | .abandoned elapsed => elapsed.toNanos

/-- The time that some attempts took together. -/
def spent (attempts : List (Attempt σ)) : Nat :=
  (attempts.map (·.fate.took)).sum

/-- The time that some exchanges with a transport took together. -/
def Exchange.elapsed (exchanges : List Exchange) : Nat :=
  (exchanges.map (·.reply.took.toNanos)).sum

/-- The attempt as it is recorded when its caller gives up. -/
def Attempt.abandon (attempt : Attempt σ) (elapsed : Duration) : Attempt σ :=
  { attempt with fate := .abandoned elapsed }

/-- One more attempt takes its own time. -/
@[simp] theorem spent_append_singleton (attempts : List (Attempt σ)) (attempt : Attempt σ) :
    spent (attempts ++ [attempt]) = spent attempts + attempt.fate.took := by
  simp [spent]

/-- A reply that was waited for takes its own time. -/
@[simp] theorem Fate.took_ofReply (uri : Url) (reply : Reply) :
    (Fate.ofReply uri reply).took = reply.took.toNanos := by
  unfold Fate.ofReply
  cases reply.outcome <;> rfl

/-- The time of some exchanges is that of the attempts they belong to. -/
theorem Exchange.elapsed_eq (exchanges : List Exchange) :
    Exchange.elapsed exchanges = ((exchanges.map Exchange.fate).map Fate.took).sum := by
  -- Whatever the reply was, it took its own time.
  rw [List.map_map, elapsed]
  refine congrArg List.sum (List.map_congr_left fun exchange _ => ?_)
  exact (Fate.took_ofReply exchange.request.uri exchange.reply).symm

/-- Attempts that were not sent take no time, so that all the time is that of those sent. -/
theorem spent_eq_sum_sent {attempts : List (Attempt σ)}
    (idle : ∀ attempt ∈ attempts, attempt.sending = none → attempt.fate.took = 0) :
    spent attempts = ((attempts.filterMap fun attempt =>
      attempt.sending.map fun _ => attempt.fate).map Fate.took).sum := by
  -- The induction is on the attempts, each of which is kept with its time or dropped without any.
  induction attempts with
  | nil => rfl
  | cons attempt rest ih =>
    have later := ih fun next member => idle next (List.mem_cons_of_mem attempt member)
    have split : spent (attempt :: rest) = attempt.fate.took + spent rest := by simp [spent]
    rw [split, later]
    cases sent : attempt.sending with
    | none =>
      rw [List.filterMap_cons_none (by simp [sent]), idle attempt List.mem_cons_self sent,
        Nat.zero_add]
    | some sending =>
      rw [List.filterMap_cons_some (by simp [sent]; rfl), List.map_cons, List.sum_cons]

/-- A reply that comes in time is waited for. -/
theorem Call.fate_within (call : Call) {patience : Duration} {waited : Nat} (uri : Url)
    {reply : Reply} (enough : waited + reply.took.toNanos ≤ patience.toNanos) :
    (call.within patience).fate waited uri reply = .ofReply uri reply := by
  -- There is enough left of the patience, so the reply is taken as it comes.
  have patient : ¬patience.toNanos - waited < reply.took.toNanos := by omega
  simp [Call.fate, Executor.givesUp, Executor.patienceLeft, Call.within, patient, Fate.ofReply]

/-- A reply that comes too late is given up. -/
theorem Call.fate_beyond (call : Call) {patience : Duration} {waited : Nat} (uri : Url)
    {reply : Reply} (left : waited ≤ patience.toNanos)
    (late : patience.toNanos < waited + reply.took.toNanos) :
    ∃ elapsed, (call.within patience).fate waited uri reply = .abandoned elapsed := by
  -- What is left of the patience is less than the reply takes.
  have impatient : patience.toNanos - waited < reply.took.toNanos := by omega
  exact ⟨_, if_pos (by simp [Executor.givesUp, Executor.patienceLeft, Call.within, impatient])⟩

/--
A call that was dropped, by the attempts of the one that is waited for. It has made the same
attempts up to the one in which the patience of its caller ran out.
-/
structure Dropped (patience : Nat) (whole : List (Attempt σ)) (verdict : Verdict)
    (made : List (Attempt σ)) : Prop where
  abandoned : verdict = .abandoned
  attempts : ∃ ended waiting elapsed, ended ++ [waiting] <+: whole ∧
    made = ended ++ [waiting.abandon elapsed] ∧ waiting.sending.isSome = true ∧
    spent ended ≤ patience ∧ patience < spent ended + waiting.fate.took

/-- However the call that is waited for goes on, the dropped one has ended. -/
theorem Dropped.extend {patience : Nat} {whole more made : List (Attempt σ)} {verdict : Verdict}
    (dropped : Dropped patience whole verdict made) (longer : whole <+: more) :
    Dropped patience more verdict made := by
  obtain ⟨abandoned, ended, waiting, elapsed, first, rest⟩ := dropped
  exact ⟨abandoned, ended, waiting, elapsed, first.trans longer, rest⟩

/-- A dropped call repeats nothing. -/
theorem Dropped.isRepeatable {patience : Nat} {whole made : List (Attempt σ)} {verdict : Verdict}
    (dropped : Dropped patience whole verdict made) : verdict.isRepeatable = false := by
  -- The verdict on an abandoned attempt is final.
  rw [dropped.abandoned]
  rfl

/-- A call that was dropped at a server has been dropped, however many attempts it made. -/
theorem Dropped.ofCall {patience : Nat} {whole made : List (Attempt σ)} {verdict : Verdict}
    (dropped : Dropped patience whole verdict made) (count : Nat) :
    Dropped patience whole (verdict.ofCall count) made :=
  ⟨by rw [dropped.abandoned]; rfl, dropped.attempts⟩

/-- A call that is waited for goes the same way within some patience, or it is dropped. -/
def Agree (patience : Nat) (whole within : Verdict × Progress σ τ) : Prop :=
  (whole.2.waited ≤ patience ∧ within = whole) ∨
    (patience < whole.2.waited ∧ Dropped patience whole.2.attempts within.1 within.2.attempts)

namespace Executor

variable (executor : Executor σ τ) {call : Call}

/-- An attempt is recorded behind the earlier ones, and takes no time back. -/
theorem attempt_extends (call : Call) (server : Server) (progress : Progress σ τ) :
    progress.attempts <+: (executor.attempt call server progress).2.attempts ∧
      progress.waited ≤ (executor.attempt call server progress).2.waited := by
  -- Sent or not, the attempt is one more entry, and waiting only adds time.
  rcases executor.attempt_cases call server progress with
    ⟨error, _, made⟩ | ⟨uri, reply, transport, _, _, made⟩
  · rw [made]
    exact ⟨List.prefix_append .., Nat.le_refl _⟩
  · rw [made]
    exact ⟨List.prefix_append .., Nat.le_add_right ..⟩

/-- All that is done at one server only adds to what was done before. -/
theorem keptAt_extends (call : Call) (server : Server) (start : Progress σ τ) :
    executor.KeptAt call server fun progress =>
      start.attempts <+: progress.attempts ∧ start.waited ≤ progress.waited := by
  refine ⟨fun progress before => ?_, fun _ _ same => same⟩
  obtain ⟨attempts, waited⟩ := executor.attempt_extends call server progress
  exact ⟨before.1.trans attempts, before.2.trans waited⟩

/-- The attempts at one server stand behind the earlier ones, and take no time back. -/
theorem tryServer_extends (call : Call) {policy : RetryPolicy}
    (onSame : policy.onSameServer = true) (server : Server) (retries : Nat)
    (progress : Progress σ τ) :
    progress.attempts <+: (executor.tryServer call policy server retries progress).2.attempts ∧
      progress.waited ≤ (executor.tryServer call policy server retries progress).2.waited :=
  (executor.keptAt_extends call server progress).tryServer onSame retries progress
    ⟨List.prefix_rfl, Nat.le_refl _⟩

/-- The attempts at all further servers stand behind the earlier ones, and take no time back. -/
theorem tryServers_extends (call : Call) {policy : RetryPolicy}
    (onSame : policy.onSameServer = true) (moves : Nat)
    (onNext : 0 < moves → policy.onNextServer = true) (progress : Progress σ τ) :
    progress.attempts <+: (executor.tryServers call policy moves progress).2.attempts ∧
      progress.waited ≤ (executor.tryServers call policy moves progress).2.waited := by
  -- A choice adds neither an attempt nor time, and a visit to a server takes none away.
  have kept : executor.Kept call fun next =>
      progress.attempts <+: next.attempts ∧ progress.waited ≤ next.waited :=
    ⟨fun _ _ _ before _ => ⟨before, fun server _ => executor.keptAt_extends call server progress⟩⟩
  exact kept.tryServers onSame moves onNext progress ⟨List.prefix_rfl, Nat.le_refl _⟩

/-- A caller that waits has waited as long as the attempts took. -/
theorem attempt_waited (patient : call.patience = none) (server : Server)
    (progress : Progress σ τ) (before : progress.waited = spent progress.attempts) :
    (executor.attempt call server progress).2.waited =
      spent (executor.attempt call server progress).2.attempts := by
  rcases executor.attempt_cases call server progress with
    ⟨error, _, made⟩ | ⟨uri, reply, transport, _, _, made⟩
  · -- Nothing was sent, so no time has passed.
    rw [made]
    simpa [Fate.took] using before
  · -- The time that was waited for is that of the reply.
    rw [made, call.fate_of_patient patient]
    simp [before]

/-- An attempt goes the same way, or the patience runs out while it waits. -/
theorem attempt_within (patient : call.patience = none) {patience : Duration} (server : Server)
    (progress : Progress σ τ) (before : progress.waited = spent progress.attempts)
    (left : progress.waited ≤ patience.toNanos) :
    let whole := executor.attempt call server progress
    let within := executor.attempt (call.within patience) server progress
    (whole.2.waited ≤ patience.toNanos ∧ within = whole) ∨
      (patience.toNanos < whole.2.waited ∧
        Dropped patience.toNanos whole.2.attempts within.1.verdict within.2.attempts) := by
  intro whole within
  cases bound : bindUri executor.config executor.introspector server call.request.uri with
  | error error =>
    -- Nothing is waited for if nothing is sent.
    have alike := attempt_unbound executor (call.within patience) server progress bound
    have plain := attempt_unbound executor call server progress bound
    refine .inl ⟨?_, alike.trans plain.symm⟩
    rw [show whole = _ from plain]
    exact left
  | ok uri =>
    cases replied : executor.transport (call.request.withUri uri) call.timeouts
        progress.transport with
    | mk reply transport =>
      have plain := attempt_sent executor call server progress bound replied
        (call.fate_of_patient patient progress.waited uri reply)
      rcases Nat.lt_or_ge patience.toNanos (progress.waited + reply.took.toNanos) with late | enough
      · -- The attempt that waits is the last one that the caller sees.
        obtain ⟨elapsed, fate⟩ := call.fate_beyond uri left late
        have cut := attempt_sent executor (call.within patience) server progress bound replied fate
        rw [show whole = _ from plain, show within = _ from cut]
        refine .inr ⟨late, rfl, progress.attempts, _, elapsed, List.prefix_rfl, rfl, rfl, ?_, ?_⟩
        · exact before ▸ left
        · rw [Fate.took_ofReply, ← before]
          exact late
      · -- The reply comes in time, and both callers see it.
        have alike := attempt_sent executor (call.within patience) server progress bound replied
          (call.fate_within uri enough)
        refine .inl ⟨?_, alike.trans plain.symm⟩
        rw [show whole = _ from plain]
        exact enough

/-- The attempts at one server go the same way, or the patience runs out while one of them waits. -/
theorem tryServer_within (patient : call.patience = none) {patience : Duration}
    {policy : RetryPolicy} (onSame : policy.onSameServer = true) (server : Server)
    (retries : Nat) (progress : Progress σ τ)
    (before : progress.waited = spent progress.attempts)
    (left : progress.waited ≤ patience.toNanos) :
    Agree patience.toNanos (executor.tryServer call policy server retries progress)
      (executor.tryServer (call.within patience) policy server retries progress) := by
  -- The induction is on the retries that are left.
  induction retries generalizing progress with
  | zero =>
    rw [tryServer_zero, tryServer_zero]
    -- The only attempt went alike for both, or it was dropped.
    rcases executor.attempt_within patient server progress before left with ⟨enough, same⟩ | cut
    · exact .inl ⟨enough, by rw [same]⟩
    · exact .inr cut
  | succ retries ih =>
    rw [tryServer_succ executor call onSame, tryServer_succ executor (call.within patience) onSame]
    rcases executor.attempt_within patient server progress before left with
      ⟨enough, same⟩ | ⟨late, cut⟩
    · -- Both attempts went alike, so both are repeated or neither is.
      rw [same]
      split
      · exact ih (executor.countRetry true _)
          (executor.attempt_waited patient server progress before) enough
      · exact .inl ⟨enough, rfl⟩
    · -- The dropped attempt is not repeated, whatever becomes of the other one.
      have stops := Bool.eq_false_iff.mp cut.isRepeatable
      rw [if_neg stops]
      split
      · obtain ⟨longer, later⟩ := executor.tryServer_extends call onSame server retries
          (executor.countRetry true (executor.attempt call server progress).2)
        exact .inr ⟨Nat.lt_of_lt_of_le late later, cut.extend longer⟩
      · exact .inr ⟨late, cut⟩

/-- A caller that waits has waited as long as the attempts took, at one server as elsewhere. -/
theorem keptAt_waited (patient : call.patience = none) (server : Server) :
    executor.KeptAt call server fun progress => progress.waited = spent progress.attempts :=
  ⟨fun _ before => executor.attempt_waited patient server _ before, fun _ _ same => same⟩

/-- The attempts at all servers go the same way, or the patience runs out while one waits. -/
theorem tryServers_within (patient : call.patience = none) {patience : Duration}
    {policy : RetryPolicy} (onSame : policy.onSameServer = true) (moves : Nat)
    (onNext : 0 < moves → policy.onNextServer = true) (progress : Progress σ τ)
    (before : progress.waited = spent progress.attempts)
    (left : progress.waited ≤ patience.toNanos) :
    Agree patience.toNanos (executor.tryServers call policy moves progress)
      (executor.tryServers (call.within patience) policy moves progress) := by
  -- The induction is on the moves that are left; both calls ask the balancer in the same state.
  induction moves using Nat.strongRecOn generalizing progress with
  | ind moves ih =>
    cases asked : executor.balancer.choose (some executor.clientName) progress.balancer with
    | mk answer balancer =>
      cases answer with
      | none =>
        -- Neither call finds a server, and nobody waits any more.
        rw [tryServers_none executor call policy moves progress asked,
          tryServers_none executor (call.within patience) policy moves progress asked]
        exact .inl ⟨left, rfl⟩
      | some server =>
        have visit := executor.tryServer_within patient onSame server policy.sameServerRetries
          { progress with balancer } before left
        have timed := (executor.keptAt_waited patient server).tryServer onSame
          policy.sameServerRetries { progress with balancer } before
        rw [tryServers_some executor call onNext progress asked rfl,
          tryServers_some executor (call.within patience) onNext progress asked rfl]
        rcases visit with ⟨enough, same⟩ | ⟨late, cut⟩
        · -- The visits went alike, so both calls move on or neither does.
          rw [same]
          split
          · rename_i goes
            exact ih (moves - 1) (by omega) (fun _ => onNext goes.1)
              (executor.countRetry false _) timed enough
          · exact .inl ⟨enough, rfl⟩
        · -- The dropped call does not move on, whatever becomes of the other one.
          have stops := Bool.eq_false_iff.mp cut.isRepeatable
          rw [if_neg fun goes : 0 < moves ∧ _ => stops goes.2]
          split
          · rename_i goes
            obtain ⟨longer, later⟩ := executor.tryServers_extends call onSame (moves - 1)
              (fun _ => onNext goes.1) (executor.countRetry false _)
            exact .inr ⟨Nat.lt_of_lt_of_le late later, (cut.ofCall _).extend longer⟩
          · exact .inr ⟨late, cut.ofCall _⟩

/-- A call goes the same way within some patience, or it is dropped when the patience runs out. -/
theorem run_within (patient : call.patience = none) (patience : Duration) (balancer : σ)
    (transport : τ) :
    Agree patience.toNanos (executor.run call balancer transport)
      (executor.run (call.within patience) balancer transport) :=
  executor.tryServers_within patient rfl _ retryPolicy_onNextServer { balancer, transport } rfl
    (Nat.zero_le _)

/-- A caller that waits has waited as long as the attempts of the call took. -/
theorem run_waited (patient : call.patience = none) (balancer : σ) (transport : τ) :
    (executor.run call balancer transport).2.waited =
      spent (executor.run call balancer transport).2.attempts := by
  -- No time passes between the attempts.
  have kept : executor.Kept call fun progress => progress.waited = spent progress.attempts :=
    ⟨fun _ _ _ before _ => ⟨before, fun server _ => executor.keptAt_waited patient server⟩⟩
  exact kept.run rfl

/-- An attempt of a call that is waited for took no time if it was not sent. -/
theorem took_of_unsent (patient : call.patience = none) (balancer : σ) (transport : τ)
    {attempt : Attempt σ}
    (member : attempt ∈ (executor.run call balancer transport).2.attempts)
    (unsent : attempt.sending = none) : attempt.fate.took = 0 := by
  have genuine := executor.run_genuine call balancer transport attempt member
  -- It could not be aimed at its server, which was found out at once.
  obtain ⟨error, fate⟩ := (genuine.complete patient).1.mp unsent
  rw [fate]
  rfl

/-- The attempts of a call that is waited for took as long as its exchanges with the transport. -/
theorem run_elapsed (patient : call.patience = none) (balancer : σ) (transport : τ) :
    spent (executor.run call balancer transport).2.attempts =
      Exchange.elapsed (executor.exchanges call balancer transport) := by
  -- All the time is that of the attempts that were sent, and these went as the replies say.
  have idle : ∀ attempt ∈ (executor.run call balancer transport).2.attempts,
      attempt.sending = none → attempt.fate.took = 0 :=
    fun _ member => executor.took_of_unsent patient balancer transport member
  rw [spent_eq_sum_sent idle, ← executor.exchanges_fate patient, Exchange.elapsed_eq]

end Executor

/-- Attempts in flight are neither left behind nor taken away by attempts that ended. -/
theorem Pool.active_settle (trackers : List Tracker) (attempts : List (Attempt σ)) :
    (settle trackers attempts).map (fun tracker => (tracker.server, tracker.active)) =
      trackers.map fun tracker => (tracker.server, tracker.active) := by
  -- Each attempt that ended has started, and the end takes it out of flight again.
  refine map_settle (fun tracker => (tracker.server, tracker.active)) (fun fate tracker => ?_) _ _
  obtain ⟨server, _, active⟩ := tracker.settle_kept fate
  rw [server, active]

/-- An abandoned attempt adds one to the requests and one to the errors of its server. -/
theorem Pool.counts_settle_abandoned {trackers : List Tracker} {ended : List (Attempt σ)}
    {waiting : Attempt σ} {elapsed : Duration}
    (known : ∀ attempt ∈ ended ++ [waiting.abandon elapsed],
      attempt.server ∈ trackers.map (·.server)) (server : Server) :
    total (·.requests) server (settle trackers (ended ++ [waiting.abandon elapsed])) =
        total (·.requests) server trackers +
          ended.countP (fun attempt => attempt.server = server ∧ attempt.fate.isCounted) +
          (if waiting.server = server then 1 else 0) ∧
      total (·.errors) server (settle trackers (ended ++ [waiting.abandon elapsed])) =
        total (·.errors) server trackers +
          ended.countP (fun attempt => attempt.server = server ∧
            attempt.fate.isCounted ∧ ¬attempt.fate.isSuccess) +
          (if waiting.server = server then 1 else 0) := by
  -- The counts of all attempts add up, those of the last one included.
  have requests := requests_settle known server
  have errors := errors_settle known server
  rw [List.countP_append, List.countP_singleton, ← Nat.add_assoc] at requests errors
  -- The attempt that was given up counts as one that ended without success.
  exact ⟨by simpa [Attempt.abandon, Fate.isCounted] using requests,
    by simpa [Attempt.abandon, Fate.isCounted, Fate.isSuccess] using errors⟩

/-- Until it is dropped, a call has exchanged with the transport what the whole call has. -/
theorem Executor.exchanges_of_dropped (executor : Executor σ τ) {call limited : Call}
    {balancer : σ} {transport : τ} {ended later : List (Attempt σ)} {waiting : Attempt σ}
    {elapsed : Duration}
    (whole : (executor.run call balancer transport).2.attempts = ended ++ [waiting] ++ later)
    (dropped : (executor.run limited balancer transport).2.attempts =
      ended ++ [waiting.abandon elapsed]) :
    (executor.run limited balancer transport).2.attempts.filterMap Attempt.handed =
        (ended ++ [waiting]).filterMap Attempt.handed ∧
      executor.exchanges limited balancer transport <+:
        executor.exchanges call balancer transport := by
  -- What is abandoned has been handed over like any other attempt.
  have handed : (executor.run limited balancer transport).2.attempts.filterMap Attempt.handed =
      (ended ++ [waiting]).filterMap Attempt.handed := by
    rw [dropped, List.filterMap_append, List.filterMap_append]
    rfl
  refine ⟨handed, executor.exchanges_prefix ⟨later.filterMap Attempt.handed, ?_⟩⟩
  rw [handed, whole]
  exact List.filterMap_append.symm

/-- The exchanges of a dropped call took as long as its attempts would have taken. -/
theorem Executor.elapsed_of_dropped (executor : Executor σ τ) {call limited : Call}
    (patient : call.patience = none) {balancer : σ} {transport : τ}
    {ended later : List (Attempt σ)} {waiting : Attempt σ} {elapsed : Duration}
    (whole : (executor.run call balancer transport).2.attempts = ended ++ [waiting] ++ later)
    (dropped : (executor.run limited balancer transport).2.attempts =
      ended ++ [waiting.abandon elapsed]) :
    Exchange.elapsed (executor.exchanges limited balancer transport) =
      spent ended + waiting.fate.took := by
  obtain ⟨handed, more, exchanges⟩ := executor.exchanges_of_dropped whole dropped
  have fates := executor.exchanges_fate patient balancer transport
  rw [← exchanges, List.map_append, whole, List.filterMap_append] at fates
  -- The dropped call has as many exchanges as attempts that were sent up to the waiting one.
  have count := congrArg List.length (executor.exchanges_handed limited balancer transport)
  rw [handed, List.length_map, List.length_filterMap_eq_countP] at count
  have same : ((executor.exchanges limited balancer transport).map Exchange.fate).length =
      ((ended ++ [waiting]).filterMap fun attempt =>
        attempt.sending.map fun _ => attempt.fate).length := by
    rw [List.length_map, count, List.length_filterMap_eq_countP]
    refine List.countP_congr fun attempt _ => ?_
    simp [Attempt.handed]
  have idle : ∀ attempt ∈ ended ++ [waiting],
      attempt.sending = none → attempt.fate.took = 0 := by
    intro attempt member
    refine executor.took_of_unsent patient balancer transport ?_
    rw [whole]
    exact List.mem_append_left later member
  rw [← spent_append_singleton, spent_eq_sum_sent idle, ← (List.append_inj fates same).1,
    Exchange.elapsed_eq]

/--
When a caller drops a call, the attempt that waits for the transport counts as one that ended, and
as one error, at its server. The attempts before it are the same, and count the same, as in the call
that is waited for; nothing is left in flight, and each attempt is told to the pool once, by its
start and one end. Both calls are recorded as their balancer and their transport have seen them; the
dropped one has the first exchanges of the other, of which the last is the one it did not wait for.
-/
theorem Turn.drop_statistics (turn : Turn τ) (pool : Pool) (transport : τ) (patience : Duration) :
    let limited := turn.call.within patience
    let whole := turn.executor.run turn.call pool transport
    let dropped := turn.executor.run limited pool transport
    let exchanges := turn.executor.exchanges turn.call pool transport
    let exchanged := turn.executor.exchanges limited pool transport
    let before := pool.trackers
    let after := dropped.2.balancer.trackers
    turn.executor.Recorded turn.call (turn.executor.answers turn.call pool transport) exchanges
      whole.2.attempts ∧
    turn.executor.Recorded limited (turn.executor.answers limited pool transport) exchanged
      dropped.2.attempts ∧
    (Exchange.elapsed exchanges ≤ patience.toNanos → dropped = whole) ∧
    (patience.toNanos < Exchange.elapsed exchanges →
      dropped.1 = .abandoned ∧ exchanged <+: exchanges ∧
      ∃ ended waiting later elapsed,
        whole.2.attempts = ended ++ waiting :: later ∧
        dropped.2.attempts = ended ++ [waiting.abandon elapsed] ∧
        waiting.sending.isSome = true ∧
        spent ended ≤ patience.toNanos ∧
        patience.toNanos < spent ended + waiting.fate.took ∧
        Exchange.elapsed exchanged = spent ended + waiting.fate.took ∧
        (∀ attempt ∈ ended, ∀ elapsed, attempt.fate ≠ .abandoned elapsed) ∧
        whole.2.balancer.trackers = Pool.settle (Pool.settle before ended) (waiting :: later) ∧
        after = Pool.updateFirst waiting.server
          (fun tracker =>
            { tracker with requests := tracker.requests + 1, errors := tracker.errors + 1 })
          (Pool.settle before ended) ∧
        ∀ server,
          Pool.total (·.requests) server after = Pool.total (·.requests) server before +
            ended.countP (fun attempt => attempt.server = server ∧ attempt.fate.isCounted) +
            (if waiting.server = server then 1 else 0) ∧
          Pool.total (·.errors) server after = Pool.total (·.errors) server before +
            ended.countP (fun attempt => attempt.server = server ∧
              attempt.fate.isCounted ∧ ¬attempt.fate.isSuccess) +
            (if waiting.server = server then 1 else 0)) ∧
    after.map (fun tracker => (tracker.server, tracker.active)) =
      before.map (fun tracker => (tracker.server, tracker.active)) ∧
    (turn.executor.operations limited pool transport).filter (· ≠ .choose) =
      dropped.2.attempts.flatMap Attempt.reports := by
  intro limited whole dropped exchanges exchanged before after
  have patient : turn.call.patience = none := rfl
  -- The caller waits as long as the exchanges take.
  have waited : whole.2.waited = Exchange.elapsed exchanges :=
    (turn.executor.run_waited patient pool transport).trans
      (turn.executor.run_elapsed patient pool transport)
  obtain ⟨settled, known⟩ := turn.executor.run_settles rfl limited pool transport
  have agree := turn.executor.run_within patient patience pool transport
  refine ⟨turn.executor.run_recorded turn.call pool transport,
    turn.executor.run_recorded limited pool transport, fun enough => ?_, fun late => ?_, ?_,
    (turn.executor.run_noted rfl limited pool transport).reported⟩
  · -- The patience does not run out before the end.
    rcases agree with ⟨_, same⟩ | ⟨late, _⟩
    · exact same
    · exact absurd enough (Nat.not_le.mpr (waited ▸ late))
  · -- The patience does run out, so there is an attempt in which it does.
    rcases agree with ⟨enough, _⟩ | ⟨_, cut⟩
    · exact absurd late (Nat.not_lt.mpr (waited ▸ enough))
    obtain ⟨abandoned, ended, waiting, elapsed, ⟨later, split⟩, made, sent, enough, short⟩ := cut
    have attempts : whole.2.attempts = ended ++ waiting :: later := by
      rw [List.append_cons]
      exact split.symm
    have recorded : dropped.2.attempts = ended ++ [waiting.abandon elapsed] := made
    have left : after = Pool.settle before (ended ++ [waiting.abandon elapsed]) :=
      settled.trans (congrArg (Pool.settle before) recorded)
    refine ⟨abandoned, (turn.executor.exchanges_of_dropped split.symm recorded).2, ended, waiting,
      later, elapsed, attempts, recorded, sent, enough, short,
      turn.executor.elapsed_of_dropped patient split.symm recorded, ?_, ?_, ?_, ?_⟩
    · -- The attempts before the last one are those of a call that nobody drops.
      intro attempt member
      have among : attempt ∈ whole.2.attempts := by
        rw [attempts]
        exact List.mem_append_left _ member
      exact ((turn.executor.run_genuine turn.call pool transport attempt among).complete patient).2
    · -- The whole call settles the same attempts first, and then goes on.
      rw [← Pool.settle_append, ← attempts]
      exact (turn.executor.run_settles rfl turn.call pool transport).1
    · -- The waiting attempt is the last one to be settled.
      rw [left, Pool.settle_append]
      rfl
    · rw [left]
      exact Pool.counts_settle_abandoned (recorded ▸ known)
  · -- Whatever the verdict is, each start has been met by an end.
    rw [show after = _ from settled]
    exact Pool.active_settle before dropped.2.attempts

/--
A caller that waits for eight nanoseconds gives up in the third of four attempts, each of which
takes three. Two have failed at the first server, and the one that is given up counts at the second.
-/
theorem Turn.drop_statistics_moved :
    let first : Server := { host := "a", port := 1 }
    let second : Server := { host := "b", port := 2 }
    let uri : Url :=
      { scheme := "http", host := some (.domain "items"), path := .segments ["list"] }
    let turn : Turn Unit :=
      { config := { ClientConfig.ofName "items" with sameServerRetries := 1 }
        introspector := .standard
        transport := fun _ _ state => (⟨.ofParts 0 3, .error (.io "refused")⟩, state)
        request := { method := .get, uri }
        override := none }
    let pool := Pool.ofServers "items" [first, second] .freshRoundRobin
    let patience : Duration := .ofParts 0 8
    let dropped := turn.executor.run (turn.call.within patience) pool ()
    Exchange.elapsed (turn.executor.exchanges turn.call pool ()) = 12 ∧
      dropped.1 = .abandoned ∧
      (turn.executor.exchanges (turn.call.within patience) pool ()).map
        (·.request.uri.authority) = ["//a:1", "//a:1", "//b:2"] ∧
      dropped.2.balancer.trackers =
        [{ server := first, requests := 2, errors := 2 },
          { server := second, requests := 1, errors := 1 }] := by
  -- Four attempts of three nanoseconds outlast the patience of eight.
  intro first second uri turn pool patience dropped
  have whole : Exchange.elapsed (turn.executor.exchanges turn.call pool ()) = 12 := by
    decide +kernel
  have late : patience.toNanos < Exchange.elapsed (turn.executor.exchanges turn.call pool ()) := by
    rw [whole]
    decide
  obtain ⟨-, -, -, drop, -⟩ := turn.drop_statistics pool () patience
  exact ⟨whole, (drop late).1, by decide +kernel, by decide +kernel⟩

end ServiceCall
