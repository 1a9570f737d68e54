import ServiceCall.Proofs.Balancer.Fairness
import ServiceCall.Proofs.Call.Remembering

/-!
What a call does with its balancer. Between the choices, each attempt is told as it went: nothing of
an attempt that was not sent, and the start and one end of every other attempt.
-/

namespace ServiceCall

variable {σ τ σ' τ' : Type}

/-- What a balancer is told when an attempt at a server ends. -/
def Fate.ending (server : Server) : Fate → List Pool.Operation
  | .unbound _ => []
  | .answered response elapsed => [.recordResult server elapsed response.isSuccess]
  | .failed error elapsed =>
    [if error.isServerFailure then .recordResult server elapsed false else .recordRelease server]
  | .abandoned elapsed => [.recordResult server elapsed false]

/-- What a balancer is told of a whole attempt at a server. -/
def Fate.reports (server : Server) : Fate → List Pool.Operation
  | .unbound _ => []
  | fate => .recordStart server :: fate.ending server

/-- What a balancer is told of an attempt. -/
def Attempt.reports (attempt : Attempt σ) : List Pool.Operation :=
  attempt.fate.reports attempt.server

/-- Of an attempt that was sent, a balancer is told the start and then the end. -/
theorem Fate.reports_of_sent (server : Server) {fate : Fate}
    (sent : ∀ error, fate ≠ .unbound error) :
    fate.reports server = .recordStart server :: fate.ending server := by
  -- Only an attempt that could not be aimed is told in no other way.
  cases fate with
  | unbound error => exact absurd rfl (sent error)
  | answered | failed | abandoned => rfl

/-- All that a balancer is told of an attempt is a report. -/
theorem Fate.isReport_of_reports {server : Server} {fate : Fate} {op : Pool.Operation}
    (told : op ∈ fate.reports server) : op.isReport = true := by
  cases fate with
  | unbound error => cases told
  | failed error elapsed =>
    -- The failure is told as a result or as a release.
    rcases List.mem_cons.mp told with rfl | ended
    · rfl
    · obtain rfl := List.mem_singleton.mp ended
      split <;> rfl
  | answered response elapsed | abandoned elapsed =>
    rcases List.mem_cons.mp told with rfl | ended
    · rfl
    · obtain rfl := List.mem_singleton.mp ended
      rfl

/-- The balancer that also notes what is done with it, the latest operation last. -/
def Balancer.noting (balancer : Balancer σ) : Balancer (σ × List Pool.Operation) where
  choose key state :=
    let (answer, next) := balancer.choose key state.1
    (answer, next, state.2 ++ [.choose])
  markDown server state := (balancer.markDown server state.1, state.2 ++ [.markDown server])
  reachable state := balancer.reachable state.1
  recordStart server state :=
    (balancer.recordStart server state.1, state.2 ++ [.recordStart server])
  recordResult server elapsed success state :=
    (balancer.recordResult server elapsed success state.1,
      state.2 ++ [.recordResult server elapsed success])
  recordRelease server state :=
    (balancer.recordRelease server state.1, state.2 ++ [.recordRelease server])
  stats state := balancer.stats state.1

namespace Executor

/-- The executor whose balancer also notes what is done with it. -/
def noting (executor : Executor σ τ) : Executor (σ × List Pool.Operation) τ where
  config := executor.config
  introspector := executor.introspector
  balancer := executor.balancer.noting
  transport := executor.transport

/-- The operations on the balancer during a call, in their order. -/
def operations (executor : Executor σ τ) (call : Call) (balancer : σ) (transport : τ) :
    List Pool.Operation :=
  (executor.noting.run call (balancer, []) transport).2.balancer.2

/-- A choice is noted behind the earlier operations. -/
theorem choose_noting {executor : Executor σ τ} {key : Option String}
    {state : σ × List Pool.Operation} {answer : Option Server} {next : σ}
    (asked : executor.balancer.choose key state.1 = (answer, next)) :
    executor.noting.balancer.choose key state = (answer, next, state.2 ++ [.choose]) := by
  simp [noting, Balancer.noting, asked]

/-- The start of an attempt is noted behind the earlier operations. -/
theorem recordStart_noting (executor : Executor σ τ) (server : Server)
    (state : σ × List Pool.Operation) :
    executor.noting.balancer.recordStart server state =
      (executor.balancer.recordStart server state.1, state.2 ++ [.recordStart server]) :=
  rfl

/-- The end of an attempt is noted behind the earlier operations. -/
theorem report_noting (executor : Executor σ τ) (server : Server) (fate : Fate)
    (state : σ × List Pool.Operation) :
    executor.noting.report server fate state =
      (executor.report server fate state.1, state.2 ++ fate.ending server) := by
  -- Each end is one operation on the balancer or none.
  cases fate with
  | unbound error => exact Prod.ext rfl (List.append_nil _).symm
  | failed error elapsed =>
    simp only [report, Fate.ending]
    split <;> rfl
  | answered response elapsed => rfl
  | abandoned elapsed => rfl

/-- What is noted stands beside what the balancer keeps, and changes nothing that it does. -/
theorem noting_simulates (executor : Executor σ τ) :
    executor.noting.Simulates executor Prod.fst id where
  config := rfl
  introspector := rfl
  choose _ _ := rfl
  recordStart _ _ := rfl
  recordResult _ _ _ _ := rfl
  recordRelease _ _ := rfl
  transport _ _ _ := rfl

/-- An executor that does what a plain one does remembers the same. -/
theorem Simulates.remembering {detailed : Executor σ' τ'} {plain : Executor σ τ} {view : σ' → σ}
    {transportView : τ' → τ} (simulates : detailed.Simulates plain view transportView) :
    detailed.remembering.Simulates plain.remembering (Prod.map view id)
      (Prod.map transportView id) where
  config := simulates.config
  introspector := simulates.introspector
  choose key state := by
    -- The memory is extended by the answer, which is the same for both.
    have alike := simulates.choose key state.1
    simp only [Executor.remembering, Balancer.remembering, Prod.map_fst, alike]
    rfl
  recordStart server state := congrArg (·, state.2) (simulates.recordStart server state.1)
  recordResult server elapsed success state :=
    congrArg (·, state.2) (simulates.recordResult server elapsed success state.1)
  recordRelease server state := congrArg (·, state.2) (simulates.recordRelease server state.1)
  transport request timeouts state := by
    have alike := simulates.transport request timeouts state.1
    simp only [Executor.remembering, Transport.remembering, Prod.map_fst, alike]
    rfl

/-- The balancer answers alike, whether what is done with it is noted or not. -/
theorem answers_noting (executor : Executor σ τ) (call : Call) (balancer : σ) (transport : τ) :
    executor.noting.answers call (balancer, []) transport =
      executor.answers call balancer transport := by
  -- The memory of the answers stands beside the notes, and does not read them.
  have alike := executor.noting_simulates.remembering.run call ((balancer, []), [])
    (transport, [])
  exact (congrArg (·.2.balancer.2) alike).symm

/-- The end of an attempt is told to a pool by operations on it. -/
theorem report_performed {executor : Executor Pool τ} (pooled : executor.balancer = Pool.balancer)
    (server : Server) (fate : Fate) (pool : Pool) :
    executor.report server fate pool = pool.performAll (fate.ending server) := by
  -- Each end is one operation, which the pool performs as such.
  cases fate with
  | unbound error => rfl
  | failed error elapsed =>
    rw [report, pooled, Fate.ending]
    split <;> rfl
  | answered response elapsed =>
    rw [report, pooled]
    rfl
  | abandoned elapsed =>
    rw [report, pooled]
    rfl

/-- What was noted of a call over a pool fits what became of the pool, its answers and attempts. -/
structure Noted (pool : Pool) (ops : List Pool.Operation) (state : Pool)
    (answers : List (Option Server)) (reports : List Pool.Operation) : Prop where
  performed : state = pool.performAll ops
  answered : answers = (pool.choices ops).map (·.choose.1)
  reported : ops.filter (· ≠ .choose) = reports

/-- One more choice is made from where the pool is, and tells it nothing. -/
theorem Noted.choose {pool state : Pool} {ops reports : List Pool.Operation}
    {answers : List (Option Server)} (noted : Noted pool ops state answers reports) :
    Noted pool (ops ++ [.choose]) state.choose.2 (answers ++ [state.choose.1]) reports := by
  -- The new choice is the last one, and it is filtered out of the reports.
  obtain ⟨rfl, rfl, rfl⟩ := noted
  refine ⟨?_, ?_, ?_⟩
  · exact (pool.performAll_append ops [.choose]).symm
  · rw [Pool.choices_append, List.map_append]
    rfl
  · simp

/-- One more attempt that was sent is told to the pool, and makes no choice. -/
theorem Noted.attempt {executor : Executor Pool τ} (pooled : executor.balancer = Pool.balancer)
    {pool state : Pool} {ops reports : List Pool.Operation} {answers : List (Option Server)}
    (noted : Noted pool ops state answers reports) (server : Server) {fate : Fate}
    (sent : ∀ error, fate ≠ .unbound error) :
    Noted pool (ops ++ [.recordStart server] ++ fate.ending server)
      (executor.report server fate (executor.balancer.recordStart server state)) answers
      (reports ++ fate.reports server) := by
  -- Nothing that is told of an attempt is a choice, so the choices stay as they are.
  obtain ⟨rfl, rfl, rfl⟩ := noted
  have others : ∀ op ∈ fate.reports server, op ≠ .choose := by
    rintro op told rfl
    cases Fate.isReport_of_reports told
  rw [List.append_assoc, List.singleton_append, ← Fate.reports_of_sent server sent]
  refine ⟨?_, ?_, ?_⟩
  · rw [report_performed pooled, pooled, Pool.performAll_append, Fate.reports_of_sent server sent]
    rfl
  · rw [Pool.choices_append, Pool.choices_eq_nil others, List.append_nil]
  · have told : (fate.reports server).filter (· ≠ .choose) = fate.reports server :=
      List.filter_eq_self.mpr fun op member => decide_eq_true (others op member)
    rw [List.filter_append, told]

/-- An attempt of a call over a pool is noted as it is told to the pool. -/
theorem attempt_noted (executor : Executor Pool τ) (pooled : executor.balancer = Pool.balancer)
    (call : Call) (server : Server) {pool : Pool}
    {progress : Progress ((Pool × List Pool.Operation) × List (Option Server))
      (τ × List Exchange)}
    (before : Noted pool progress.balancer.1.2 progress.balancer.1.1 progress.balancer.2
      (progress.attempts.flatMap Attempt.reports)) :
    let next := (executor.noting.remembering.attempt call server progress).2
    Noted pool next.balancer.1.2 next.balancer.1.1 next.balancer.2
      (next.attempts.flatMap Attempt.reports) := by
  -- Only an attempt that was sent is told to the pool.
  rcases executor.noting.remembering.attempt_cases call server progress with
    ⟨error, _, made⟩ | ⟨uri, reply, transport, _, _, made⟩
  · rw [made]
    -- An attempt that could not be aimed is recorded without any report.
    simpa [Attempt.reports, Fate.reports] using before
  · have told := before.attempt pooled server (call.fate_ne_unbound progress.waited uri reply)
    rw [made]
    simpa [report_remembering, recordStart_remembering, report_noting, recordStart_noting,
      Attempt.reports] using told

/--
A call over a pool does nothing with it but the operations that are noted. Its choices give the
answers of the call, and the others are what is told of its attempts, one after another.
-/
theorem run_noted (executor : Executor Pool τ) (pooled : executor.balancer = Pool.balancer)
    (call : Call) (pool : Pool) (transport : τ) :
    Noted pool (executor.operations call pool transport)
      (executor.run call pool transport).2.balancer (executor.answers call pool transport)
      ((executor.run call pool transport).2.attempts.flatMap Attempt.reports) := by
  -- Both the notes and the memory of the answers are kept up at every step.
  have kept : executor.noting.remembering.Kept call fun progress =>
      Noted pool progress.balancer.1.2 progress.balancer.1.1 progress.balancer.2
        (progress.attempts.flatMap Attempt.reports) := by
    refine ⟨fun progress answer next before asked => ⟨?_, fun server _ => ⟨?_, ?_⟩⟩⟩
    · -- The choice is made by the pool, noted, and remembered at once.
      have made (key : Option String) (state : Pool) :
          executor.balancer.choose key state = (state.choose.1, state.choose.2) := by
        rw [pooled]
        rfl
      obtain ⟨rfl, rfl⟩ := Prod.mk.inj
        ((choose_remembering (choose_noting (made _ _))).symm.trans asked)
      exact before.choose
    · exact fun progress before => executor.attempt_noted pooled call server before
    · exact fun _ _ same => same
  -- What is noted and remembered does not show in the call itself.
  have plain := executor.noting_simulates.run call (pool, []) transport
  have reports : (executor.run call pool transport).2.attempts.flatMap Attempt.reports =
      (executor.noting.remembering.run call ((pool, []), []) (transport, [])).2.attempts.flatMap
        Attempt.reports := by
    rw [show executor.run call pool transport = _ from plain, run_remembering]
    simp only [Progress.map, Progress.forget, List.flatMap_map]
    rfl
  rw [reports, show executor.run call pool transport = _ from plain, ← answers_noting, operations,
    run_remembering]
  exact kept.run ⟨rfl, rfl, rfl⟩

/-- A call over a pool marks no server. -/
theorem operations_unmarked (executor : Executor Pool τ)
    (pooled : executor.balancer = Pool.balancer) (call : Call) (pool : Pool) (transport : τ) :
    ∀ op ∈ executor.operations call pool transport, op = .choose ∨ op.isReport = true := by
  -- An operation of the call is a choice, or it is left among the reports.
  intro op member
  by_cases choice : op = .choose
  · exact .inl choice
  · -- Whatever is no choice is told of an attempt.
    have told : op ∈ (executor.run call pool transport).2.attempts.flatMap Attempt.reports := by
      rw [← (executor.run_noted pooled call pool transport).reported]
      exact List.mem_filter.mpr ⟨member, decide_eq_true choice⟩
    obtain ⟨attempt, _, reported⟩ := List.mem_flatMap.mp told
    exact .inr (Fate.isReport_of_reports reported)

/-- During a call over a pool, either every choice names a server or none does. -/
theorem answers_over_pool (executor : Executor Pool τ) (pooled : executor.balancer = Pool.balancer)
    (call : Call) (pool : Pool) (transport : τ) :
    ∀ answer ∈ executor.answers call pool transport, answer = none ↔ pool.reachable = [] := by
  -- No operation of the call changes which servers are reachable.
  intro answer member
  rw [(executor.run_noted pooled call pool transport).answered] at member
  obtain ⟨state, among, rfl⟩ := List.mem_map.mp member
  rw [Pool.choose_eq_none, Pool.reachable_of_unmarked
    (executor.operations_unmarked pooled call pool transport) state among]

end Executor

end ServiceCall
