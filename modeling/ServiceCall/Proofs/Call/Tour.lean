import Mathlib.Data.List.Nodup
import Mathlib.Data.List.ReduceOption
import Mathlib.Data.Nat.ModEq
import ServiceCall.Proofs.Call.Metering

/-!
The servers that one call uses over a rotating pool. Wherever the rotation stands when the call
starts, the call goes round all live servers before it comes back to one of them.
-/

namespace ServiceCall

variable {σ τ : Type}

/-- A list without a missing entry is that of the entries it has. -/
theorem map_some_reduceOption {α : Type} {entries : List (Option α)} (given : none ∉ entries) :
    entries.reduceOption.map some = entries := by
  -- The induction is on the list, of which no entry is dropped.
  induction entries with
  | nil => rfl
  | cons entry rest ih =>
    cases entry with
    | none => exact absurd List.mem_cons_self given
    | some value =>
      have later : none ∉ rest := fun member => given (List.mem_cons_of_mem _ member)
      rw [List.reduceOption_cons_of_some, List.map_cons, ih later]

/-- Servers that are used one after another, from some place on, in turns round a list of them. -/
def GoesRound (live : List Server) (start : Nat) (used : List Server) : Prop :=
  ∀ j < used.length, used[j]? = live[(start + j) % live.length]?

namespace GoesRound

variable {live used : List Server} {start : Nat}

/-- Only servers of the list are used. -/
theorem subset (round : GoesRound live start used) : used ⊆ live := by
  -- Each use is found at some place of the list.
  intro server member
  obtain ⟨j, within, rfl⟩ := List.getElem_of_mem member
  have there := round j within
  rw [List.getElem?_eq_getElem within] at there
  exact List.mem_of_getElem? there.symm

/-- The same server is used again only after as many others as there are in the list. -/
theorem length_le_of_repeated (round : GoesRound live start used) (distinct : live.Nodup)
    {i j : Nat} {server : Server} (before : i < j) (first : used[i]? = some server)
    (again : used[j]? = some server) : live.length ≤ j - i := by
  have within := (List.getElem?_eq_some_iff.mp again).1
  rw [round i (by omega)] at first
  rw [round j within] at again
  -- Both uses are at the same place of the list, so they lie whole turns apart.
  have place := (List.getElem?_eq_some_iff.mp first).1
  have same := (List.getElem?_inj place distinct).mp (first.trans again.symm)
  have apart : i ≡ j [MOD live.length] := Nat.ModEq.add_left_cancel' start same
  exact Nat.le_of_dvd (by omega) ((Nat.modEq_iff_dvd' before.le).mp apart)

/-- In one turn no server is used twice. -/
theorem nodup_take (round : GoesRound live start used) (distinct : live.Nodup) :
    (used.take live.length).Nodup := by
  -- A server in two places of one turn would be used again too soon.
  refine List.nodup_iff_getElem?_ne_getElem?.mpr fun i j before within same => ?_
  have short : j < live.length ∧ j < used.length := by simpa using within
  rw [List.getElem?_take_of_lt (before.trans short.1), List.getElem?_take_of_lt short.1] at same
  have found := List.getElem?_eq_getElem short.2
  have apart := round.length_le_of_repeated distinct before (same.trans found) found
  omega

/-- A whole turn uses every server of the list. -/
theorem mem_take (round : GoesRound live start used) (distinct : live.Nodup)
    (whole : live.length ≤ used.length) {server : Server} (listed : server ∈ live) :
    server ∈ used.take live.length := by
  -- As many different servers as there are in the list must be all of them.
  have within : used.take live.length ⊆ live :=
    List.Subset.trans (List.take_subset live.length used) round.subset
  have turn := (round.nodup_take distinct).subperm within
  have all := turn.perm_of_length_le (by simp [whole])
  exact all.mem_iff.mpr listed

/-- Before a server is used again, every server has been used. -/
theorem mem_take_of_repeated (round : GoesRound live start used) (distinct : live.Nodup)
    {i j : Nat} {server other : Server} (before : i < j) (first : used[i]? = some server)
    (again : used[j]? = some server) (listed : other ∈ live) : other ∈ used.take j := by
  -- A whole turn lies before the second use.
  have turn := round.length_le_of_repeated distinct before first again
  have within := (List.getElem?_eq_some_iff.mp again).1
  exact List.take_subset_take_left used (by omega) (round.mem_take distinct (by omega) listed)

end GoesRound

namespace Executor

/-- While a server is live, every answer to a call over a pool names one. -/
theorem answers_eq_map_some (executor : Executor Pool τ)
    (pooled : executor.balancer = Pool.balancer) (call : Call) {pool : Pool} (transport : τ)
    (reachable : pool.reachable ≠ []) :
    executor.answers call pool transport =
      (executor.answers call pool transport).reduceOption.map some := by
  -- A live server is found by every choice, since no call marks a server.
  have offered : none ∉ executor.answers call pool transport := fun refused =>
    reachable ((executor.answers_over_pool pooled call pool transport none refused).mp rfl)
  exact (map_some_reduceOption offered).symm

/-- A server that a call uses is the answer of the balancer in the same place. -/
theorem answer_of_used (executor : Executor Pool τ) (pooled : executor.balancer = Pool.balancer)
    (call : Call) {pool : Pool} (transport : τ) {k : Nat} {server : Server}
    (chosen : (executor.answers call pool transport).reduceOption[k]? = some server) :
    (executor.answers call pool transport)[k]? = some (some server) := by
  by_cases reachable : pool.reachable = []
  · -- Without a live server, none is used.
    rw [(executor.run_unreachable pooled call reachable transport).1] at chosen
    cases chosen
  · -- No answer is dropped, so the places are the same.
    rw [executor.answers_eq_map_some pooled call transport reachable, List.getElem?_map, chosen]
    rfl

/-- Over a rotating pool, a call is offered the live servers in turns. -/
theorem answers_goRound (executor : Executor Pool τ) (pooled : executor.balancer = Pool.balancer)
    (call : Call) {pool : Pool} (transport : τ) {next : UInt64}
    (rotating : pool.strategy = .roundRobin next)
    (unwrapped : next.toNat + (executor.answers call pool transport).length ≤ 2 ^ 64) :
    GoesRound pool.reachable next.toNat
      (executor.answers call pool transport).reduceOption := by
  intro j within
  -- The answer in this place is that of the choice in the same place.
  obtain ⟨server, used⟩ : ∃ server,
      (executor.answers call pool transport).reduceOption[j]? = some server :=
    ⟨_, List.getElem?_eq_getElem within⟩
  have answer := executor.answer_of_used pooled call transport used
  have answered := (executor.run_noted pooled call pool transport).answered
  have unmarked := executor.operations_unmarked pooled call pool transport
  rw [answered] at answer unwrapped
  obtain ⟨inside, choice⟩ := List.getElem?_eq_some_iff.mp answer
  rw [List.length_map] at inside unwrapped
  rw [List.getElem_map] at choice
  -- The choice in this place found a server, so there is one to be found.
  have steady : ∀ state ∈ pool.choices (executor.operations call pool transport),
      state.reachable = pool.reachable := Pool.reachable_of_unmarked unmarked
  have reachable : pool.reachable ≠ [] := by
    rw [← steady _ (List.getElem_mem inside), ← Pool.choose_isSome, choice]
    rfl
  rw [used, ← choice, (Pool.choice_of_steady rotating reachable steady unwrapped inside).2]

/--
A call over a rotating pool of different live servers uses them in turns, each with an attempt. The
servers of its first turn are pairwise different, it comes back to a server only after it has used
all of them, and with enough moves it fails for want of more only after it has attempted them all,
each with the request aimed at it. The record of the call tells what the transport has seen of it.
-/
theorem run_tours (executor : Executor Pool τ) (pooled : executor.balancer = Pool.balancer)
    (call : Call) {pool : Pool} (transport : τ) {next : UInt64}
    (rotating : pool.strategy = .roundRobin next) (distinct : pool.reachable.Nodup)
    (unwrapped : next.toNat + (executor.answers call pool transport).length ≤ 2 ^ 64) :
    let live := pool.reachable
    let answers := executor.answers call pool transport
    let used := answers.reduceOption
    let attempts := (executor.run call pool transport).2.attempts
    let exchanges := executor.exchanges call pool transport
    let perServer := executor.config.sameServerRetries + 1
    let moves := if call.request.method = .get ∨ executor.config.retryAllOperations = true
      then executor.config.nextServerRetries else 0
    executor.Recorded call answers exchanges attempts ∧
    (live ≠ [] → answers = used.map some) ∧
    (∀ (k : Nat) (server : Server), used[k]? = some server →
      ∃ attempt, attempts[k * perServer]? = some attempt ∧ attempt.server = server) ∧
    (used.take live.length).Nodup ∧
    (∀ (i j : Nat) (server : Server), i < j → used[i]? = some server → used[j]? = some server →
      ∀ other ∈ live, other ∈ used.take j) ∧
    (live.length - 1 ≤ moves → ∀ (last : Attempt Pool) (error : CallError),
      attempts.getLast? = some last → last.fate.outcome? = some (.error error) →
      error.isRetriable = true →
      ∀ server ∈ live, (∃ attempt ∈ attempts, attempt.server = server) ∧
        ∃ exchange ∈ exchanges, ∃ uri,
          bindUri executor.config executor.introspector server call.request.uri = .ok uri ∧
          exchange.handed = (call.request.withUri uri, call.timeouts)) := by
  intro live answers used attempts exchanges perServer moves
  have recorded : executor.Recorded call answers exchanges attempts :=
    executor.run_recorded call pool transport
  have round : GoesRound live next.toNat used :=
    executor.answers_goRound pooled call transport rotating unwrapped
  have attempted (k : Nat) (server : Server) (chosen : used[k]? = some server) :
      ∃ attempt, attempts[k * perServer]? = some attempt ∧ attempt.server = server :=
    executor.run_attempted call pool transport
      (executor.answer_of_used pooled call transport chosen)
  refine ⟨recorded, executor.answers_eq_map_some pooled call transport, attempted,
    round.nodup_take distinct, fun i j server before first again other listed =>
      round.mem_take_of_repeated distinct before first again listed, ?_⟩
  intro enough last error final failed retriable server listed
  have reachable : pool.reachable ≠ [] := List.ne_nil_of_mem listed
  have named : answers = used.map some :=
    executor.answers_eq_map_some pooled call transport reachable
  -- A failure that could be repeated ends the call only when all moves have been made.
  obtain ⟨earlier, before, stopped, split, _, pending, asked, _, _, _, spent⟩ :=
    executor.run_ended call pool transport fun refused => reachable
      ((executor.answers_over_pool pooled call pool transport none refused).mp rfl)
  obtain rfl : stopped = last := by
    rw [show attempts = _ from split, List.getLast?_concat] at final
    exact Option.some.inj final
  have unfinished : stopped.fate.verdict.isRepeatable = true :=
    (Fate.isRepeatable_of_error failed).trans retriable
  have all : earlier = moves :=
    (spent unfinished).1.trans (executor.retryPolicy_moves call.request)
  have whole : live.length ≤ used.length := by
    have count : answers.length = used.length := by rw [named, List.length_map]
    rw [← count, show answers.length = _ from asked]
    omega
  obtain ⟨k, chosen⟩ := List.getElem?_of_mem
    (List.mem_of_mem_take (round.mem_take distinct whole listed))
  obtain ⟨attempt, found, there⟩ := attempted k server chosen
  have member : attempt ∈ attempts := List.mem_of_getElem? found
  -- No attempt was final, so that each could be aimed at its server and was sent there.
  have repeatable : attempt.fate.verdict.isRepeatable = true := by
    rw [show attempts = _ from split] at member
    rcases List.mem_append.mp member with earlier | last
    · exact pending attempt earlier
    · rw [List.mem_singleton.mp last]
      exact unfinished
  obtain ⟨uri, aimed⟩ :=
    (executor.run_genuine call pool transport attempt member).exists_bound repeatable
  obtain ⟨exchange, sent, handed⟩ := recorded.exists_exchange member aimed
  exact ⟨⟨attempt, member, there⟩, exchange, sent, uri, there ▸ aimed, handed⟩

/-- From a count of seven, a call that fails everywhere attempts the second server and the first. -/
theorem run_tours_both :
    let first : Server := { host := "a", port := 1 }
    let second : Server := { host := "b", port := 2 }
    let pool := Pool.ofServers "items" [first, second] (.roundRobin 7)
    let executor : Executor Pool Unit :=
      { config := .ofName "items"
        introspector := .standard
        balancer := Pool.balancer
        transport := fun _ _ state => (⟨.zero, .error (.io "refused")⟩, state) }
    let uri : Url :=
      { scheme := "http", host := some (.domain "items"), path := .segments ["list"] }
    let call : Call :=
      { request := { method := .get, uri }, timeouts := executor.config.timeouts }
    let used := (executor.answers call pool ()).reduceOption
    pool.reachable.Nodup ∧ used = [second, first] ∧ (used.take 2).Nodup ∧
      (executor.exchanges call pool ()).map (·.request.uri.authority) = ["//b:2", "//a:1"] ∧
      ∀ server ∈ [first, second],
        ∃ attempt ∈ (executor.run call pool ()).2.attempts, attempt.server = server := by
  -- The one move that a client makes by default is enough for two servers.
  intro first second pool executor uri call used
  have answers : executor.answers call pool () = [some second, some first] := by decide +kernel
  have distinct : pool.reachable.Nodup := by decide
  have last : (executor.run call pool ()).2.attempts.getLast?.map (·.fate) =
      some (.failed (.io "refused") .zero) := by decide +kernel
  obtain ⟨attempt, final, fate⟩ := Option.map_eq_some_iff.mp last
  have tour := executor.run_tours rfl call () rfl distinct (by rw [answers]; decide)
  obtain ⟨_, _, _, different, _, all⟩ := tour
  have visited := all (by decide) attempt (.io "refused") final (by rw [fate]; rfl) rfl
  exact ⟨distinct, by simp [used, answers, List.reduceOption], different, by decide +kernel,
    fun server listed => (visited server listed).1⟩

end Executor

end ServiceCall
