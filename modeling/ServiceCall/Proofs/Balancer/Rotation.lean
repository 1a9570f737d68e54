import Mathlib.Logic.Function.Basic
import ServiceCall.Proofs.Balancer.Totals

/-!
Which servers a pool offers after any run of operations. A mark goes to the first entry of the
server it names, so a pool remembers one mark for each server, and it goes on offering a server
that is marked down when its list names that server again.
-/

namespace ServiceCall

namespace Pool

/-- What can be done with a pool. -/
inductive Operation where
  | choose
  | markDown (server : Server)
  | markUp (server : Server)
  | recordStart (server : Server)
  | recordResult (server : Server) (elapsed : Duration) (success : Bool)
  | recordRelease (server : Server)
  deriving DecidableEq

/-- Whether an operation tells a pool about an attempt. -/
def Operation.isReport : Operation → Bool
  | .recordStart _ | .recordResult _ _ _ | .recordRelease _ => true
  | .choose | .markDown _ | .markUp _ => false

/-- Does one operation with a pool. -/
def perform (pool : Pool) : Operation → Pool
  | .choose => pool.choose.2
  | .markDown server => pool.markDown server
  | .markUp server => pool.markUp server
  | .recordStart server => pool.recordStart server
  | .recordResult server elapsed success => pool.recordResult server elapsed success
  | .recordRelease server => pool.recordRelease server

/-- Does some operations with a pool, one after another. -/
def performAll (pool : Pool) (ops : List Operation) : Pool :=
  ops.foldl perform pool

/-- Later operations start from where the earlier ones have led. -/
theorem performAll_append (pool : Pool) (early late : List Operation) :
    pool.performAll (early ++ late) = (pool.performAll early).performAll late :=
  List.foldl_append

/-- The servers that are marked down after an operation, by those that were before. -/
def Operation.mark (down : Server → Bool) : Operation → Server → Bool
  | .markDown server => Function.update down server true
  | .markUp server => Function.update down server false
  | _ => down

/-- The entries of a pool with their health flags. -/
def flags (trackers : List Tracker) : List (Server × Bool) :=
  trackers.map fun tracker => (tracker.server, tracker.alive)

/-- A list of servers with flags that are down at the first entry of each server marked down. -/
def flagged (down : Server → Bool) : List Server → List (Server × Bool)
  | [] => []
  | server :: rest => (server, !down server) :: flagged (Function.update down server false) rest

/-- Where no server is marked down, every entry is live. -/
theorem flagged_unmarked (servers : List Server) :
    flagged (fun _ => false) servers = servers.map fun server => (server, true) := by
  -- Passing an entry takes away a mark that no server has.
  induction servers with
  | nil => rfl
  | cons server rest ih =>
    have same : Function.update (fun _ : Server => false) server false = fun _ => false :=
      Function.update_eq_self server _
    rw [flagged, same, ih]
    rfl

/-- In a pool without any history, no server is marked down. -/
theorem flags_ofServers (name : String) (servers : List Server) (strategy : Strategy) :
    flags (ofServers name servers strategy).trackers = flagged (fun _ => false) servers := by
  -- Every tracker starts alive.
  simp [flagged_unmarked, flags, ofServers, Tracker.ofServer]

/-- Setting the flag of a server's first entry marks that server up or down, and no other one. -/
theorem flags_updateFirst {down : Server → Bool} {trackers : List Tracker} {servers : List Server}
    (marked : flags trackers = flagged down servers) (server : Server) (up : Bool) :
    flags (updateFirst server (fun tracker => { tracker with alive := up }) trackers) =
      flagged (Function.update down server !up) servers := by
  -- The induction is on the entries; those that are passed use up their own marks.
  induction trackers generalizing down servers with
  | nil =>
    cases servers with
    | nil => rfl
    | cons first later => cases marked
  | cons tracker rest ih =>
    cases servers with
    | nil => cases marked
    | cons first later =>
      obtain ⟨head, tail⟩ := List.cons.inj marked
      obtain ⟨rfl, flag⟩ := Prod.mk.inj head
      by_cases here : tracker.server = server
      · -- This is the first entry, and the mark of its server does not go beyond it.
        rw [updateFirst, if_pos here, flagged, here, Function.update_self, Function.update_idem,
          Bool.not_not, ← here, ← tail]
        rfl
      · -- The entry belongs to another server, so its mark is apart from the one that changes.
        rw [updateFirst, if_neg here, flagged, Function.update_of_ne here, ← flag,
          Function.update_comm (Ne.symm here), ← ih tail]
        rfl

/-- A change that keeps the flag of every entry keeps the flags of a list. -/
theorem flags_updateFirst_of_kept (server : Server) (change : Tracker → Tracker)
    (kept : ∀ tracker, ((change tracker).server, (change tracker).alive) =
      (tracker.server, tracker.alive)) (trackers : List Tracker) :
    flags (updateFirst server change trackers) = flags trackers :=
  map_updateFirst (fun tracker => (tracker.server, tracker.alive)) kept trackers

/-- Choices and reports leave all flags as they are. -/
theorem flags_perform {op : Operation} (unmarked : op = .choose ∨ op.isReport = true)
    (pool : Pool) : flags (pool.perform op).trackers = flags pool.trackers := by
  cases op with
  | choose =>
    -- A choice moves its strategy on, and keeps all trackers.
    have same : pool.choose.2.trackers = pool.trackers := (choose_spec rfl).1
    rw [perform, same]
  | markDown server | markUp server => simp [Operation.isReport] at unmarked
  | recordStart server => exact flags_updateFirst_of_kept server Tracker.start (fun _ => rfl) _
  | recordResult server elapsed success =>
    -- A success and a failure count differently, and neither touches the flag.
    have kept : ∀ tracker : Tracker, ((tracker.finish elapsed success).server,
        (tracker.finish elapsed success).alive) = (tracker.server, tracker.alive) := by
      intro tracker
      unfold Tracker.finish
      cases success <;> rfl
    exact flags_updateFirst_of_kept server (·.finish elapsed success) kept _
  | recordRelease server => exact flags_updateFirst_of_kept server Tracker.release (fun _ => rfl) _

/-- One operation marks the servers that it says and leaves all other flags as they are. -/
theorem perform_flags {down : Server → Bool} {pool : Pool} {servers : List Server}
    (marked : flags pool.trackers = flagged down servers) (op : Operation) :
    flags (pool.perform op).trackers = flagged (op.mark down) servers := by
  -- Only the two marks change a flag, and they change that of one server's first entry.
  cases op with
  | markDown server => exact flags_updateFirst marked server false
  | markUp server => exact flags_updateFirst marked server true
  | choose => exact (flags_perform (.inl rfl) pool).trans marked
  | recordStart server | recordResult server elapsed success | recordRelease server =>
    exact (flags_perform (.inr rfl) pool).trans marked

/-- The flags of a pool are told by its list of servers and the marks of the operations on it. -/
theorem performAll_flags {down : Server → Bool} {pool : Pool} {servers : List Server}
    (marked : flags pool.trackers = flagged down servers) (ops : List Operation) :
    flags (pool.performAll ops).trackers = flagged (ops.foldl Operation.mark down) servers := by
  -- The induction is on the operations, and each one keeps what the next one needs.
  induction ops generalizing down pool with
  | nil => exact marked
  | cons op rest ih => exact ih (perform_flags marked op)

/-- The reachable servers are those of the entries with a live flag. -/
theorem reachable_eq (pool : Pool) :
    pool.reachable = ((flags pool.trackers).filter (·.2)).map (·.1) := by
  -- Filtering the trackers and then naming their servers reads nothing but the flags.
  rw [flags, List.filter_map, List.map_map]
  rfl

/-- Choices and reports leave the reachable servers as they are. -/
theorem reachable_perform {op : Operation} (unmarked : op = .choose ∨ op.isReport = true)
    (pool : Pool) : (pool.perform op).reachable = pool.reachable := by
  -- What is reachable is told by the flags, which such an operation keeps.
  rw [reachable_eq, reachable_eq, flags_perform unmarked]

/-- A mark takes one of the entries of its server away. -/
theorem count_flagged (down : Server → Bool) (servers : List Server) (server : Server) :
    (((flagged down servers).filter (·.2)).map (·.1)).count server =
      servers.count server - if down server then 1 else 0 := by
  -- The induction is on the list; only the first entry of the server meets its mark.
  induction servers generalizing down with
  | nil => simp [flagged]
  | cons head rest ih =>
    have later := ih (Function.update down head false)
    by_cases here : head = server
    · -- The mark takes this entry away, or there is none; either way none is left for the rest.
      subst here
      rw [Function.update_self] at later
      cases marked : down head <;> simpa [flagged, marked] using later
    · -- The entry of another server does not count, whether it is live or not.
      rw [Function.update_of_ne (Ne.symm here)] at later
      cases marked : down head <;>
        simpa [flagged, marked, List.count_cons_of_ne here] using later

/-- A server is offered as often as it is listed, or once less while it is marked down. -/
theorem count_reachable_performAll (name : String) (servers : List Server) (strategy : Strategy)
    (ops : List Operation) (server : Server) :
    ((ofServers name servers strategy).performAll ops).reachable.count server =
      servers.count server - if ops.foldl Operation.mark (fun _ => false) server then 1 else 0 := by
  -- The flags after the run are told by its marks, and each mark costs one entry.
  rw [reachable_eq, performAll_flags (flags_ofServers name servers strategy), count_flagged]

/-- A server that is marked down stays so until it is marked up. -/
theorem mark_kept {down : Server → Bool} {server : Server} {ops : List Operation}
    (marked : down server = true) (unmarked : .markUp server ∉ ops) :
    ops.foldl Operation.mark down server = true := by
  -- The induction is on the operations, none of which takes this mark away.
  induction ops generalizing down with
  | nil => exact marked
  | cons op rest ih =>
    obtain ⟨other, unmarked⟩ := not_or.mp fun found => unmarked (List.mem_cons.mpr found)
    refine ih ?_ unmarked
    cases op with
    | markDown asked =>
      -- Marking a server down once more, or another one, keeps the mark.
      by_cases same : server = asked
      · rw [same]
        exact Function.update_self ..
      · exact (Function.update_of_ne same ..).trans marked
    | markUp asked =>
      -- Only another server is marked up.
      have apart : server ≠ asked := fun same => other (congrArg Operation.markUp same)
      exact (Function.update_of_ne apart ..).trans marked
    | choose | recordStart asked | recordResult asked elapsed success | recordRelease asked =>
      exact marked

/-- Whatever changes at an entry of a server, the other servers are reachable as before. -/
theorem reachable_update_of_ne (pool : Pool) {server : Server} {change : Tracker → Tracker}
    (kept : ∀ tracker, (change tracker).server = tracker.server) :
    (pool.update server change).reachable.filter (· ≠ server) =
      pool.reachable.filter (· ≠ server) := by
  obtain ⟨name, trackers, strategy⟩ := pool
  show (((updateFirst server change trackers).filter (·.alive)).map (·.server)).filter _ =
    ((trackers.filter (·.alive)).map (·.server)).filter _
  -- Before and after the change, the filter drops the entry that changes.
  induction trackers with
  | nil => rfl
  | cons tracker rest ih =>
    by_cases here : tracker.server = server
    · -- The entry that changes belongs to the server that is filtered out.
      cases before : tracker.alive <;> cases after : (change tracker).alive <;>
        simp [updateFirst, here, kept, before, after]
    · -- An entry of another server is passed, and kept if it is live.
      rw [updateFirst, if_neg here]
      cases live : tracker.alive with
      | false => simpa [live] using ih
      | true => simpa [live, here] using ih

/-- A choice is one of the reachable servers. -/
theorem mem_reachable_of_choose {pool : Pool} {server : Server}
    (chosen : pool.choose.1 = some server) : server ∈ pool.reachable := by
  -- The strategy picks a place among the reachable servers, or there is no choice.
  unfold choose at chosen
  split at chosen
  · exact List.mem_of_getElem? chosen
  · cases chosen

/-- A strategy picks a place among the candidates if there are any. -/
theorem pick_of_pos (strategy : Strategy) {candidates : Nat} (some_left : 0 < candidates) :
    ∃ place next, strategy.pick candidates = .ok (place, next) ∧ place < candidates := by
  -- Both strategies take a remainder by the number of candidates.
  unfold Strategy.pick
  rw [if_neg (Nat.ne_of_gt some_left)]
  cases strategy with
  | roundRobin next => exact ⟨_, _, rfl, Nat.mod_lt _ some_left⟩
  | random draws taken => exact ⟨_, _, rfl, Nat.mod_lt _ some_left⟩

/-- A pool has no server to offer exactly if none is reachable. -/
theorem choose_eq_none (pool : Pool) : pool.choose.1 = none ↔ pool.reachable = [] := by
  unfold choose
  rcases Nat.eq_zero_or_pos pool.reachable.length with empty | some_left
  · -- The strategy refuses to pick among no candidates.
    have refused : pool.strategy.pick pool.reachable.length =
        .error (.noCandidates pool.strategy.name) := if_pos empty
    rw [refused]
    exact iff_of_true rfl (List.length_eq_zero_iff.mp empty)
  · -- A place among the candidates names one of them.
    obtain ⟨place, next, picked, within⟩ := pick_of_pos pool.strategy some_left
    simp only [picked, List.getElem?_eq_none_iff]
    exact iff_of_false (Nat.not_le.mpr within) (List.ne_nil_of_length_pos some_left)

/--
From a mark until the server is marked up again, the server is offered once less than it is listed:
a list without repeated entries never offers it, and any other list still does. No mark changes
what is reachable of the other servers.
-/
theorem reachable_after_markDown (name : String) (servers : List Server) (strategy : Strategy)
    (early late : List Operation) (server : Server) (unmarked : .markUp server ∉ late) :
    let pool := (ofServers name servers strategy).performAll (early ++ .markDown server :: late)
    pool.reachable.count server = servers.count server - 1 ∧
      (server ∈ pool.reachable ↔ 2 ≤ servers.count server) ∧
      (pool.choose.1 = some server → 2 ≤ servers.count server) ∧
      ∀ other,
        (pool.markDown other).reachable.filter (· ≠ other) =
            pool.reachable.filter (· ≠ other) ∧
          (pool.markUp other).reachable.filter (· ≠ other) =
            pool.reachable.filter (· ≠ other) := by
  -- The mark outlasts the later operations, so it takes one entry away at the end.
  intro pool
  have down : (early ++ .markDown server :: late).foldl Operation.mark (fun _ => false) server =
      true := by
    rw [List.foldl_append, List.foldl_cons]
    exact mark_kept (Function.update_self ..) unmarked
  have count : pool.reachable.count server = servers.count server - 1 := by
    have law := count_reachable_performAll name servers strategy
      (early ++ .markDown server :: late) server
    rwa [down, if_pos rfl] at law
  have offered : server ∈ pool.reachable ↔ 2 ≤ servers.count server := by
    rw [← List.count_pos_iff, count]
    omega
  refine ⟨count, offered, fun chosen => offered.mp (mem_reachable_of_choose chosen), ?_⟩
  intro other
  exact ⟨reachable_update_of_ne pool fun _ => rfl, reachable_update_of_ne pool fun _ => rfl⟩

/-- After another server was marked up, one of three entries is left of a server listed twice. -/
theorem reachable_after_markDown_repeated :
    let server : Server := { host := "a", port := 1 }
    let other : Server := { host := "b", port := 2 }
    let pool := (ofServers "items" [server, other, server] .freshRoundRobin).performAll
      ([.choose, .markDown other] ++ .markDown server :: [.recordStart server, .markUp other])
    pool.reachable.count server = 1 ∧ server ∈ pool.reachable := by
  -- One of the two entries of the server is left.
  intro server other pool
  have law := reachable_after_markDown "items" [server, other, server] .freshRoundRobin
    [.choose, .markDown other] [.recordStart server, .markUp other] server (by decide)
  have twice : [server, other, server].count server = 2 := by decide
  rw [twice] at law
  exact ⟨law.1, law.2.1.mpr (Nat.le_refl 2)⟩

/-- A server that a list names twice is offered even while it is the last one marked down. -/
theorem choose_after_markDown_repeated :
    let server : Server := { host := "a", port := 1 }
    let pool := (ofServers "items" [server, server] .freshRoundRobin).performAll
      [.markDown server]
    pool.choose.1 = some server ∧ pool.reachable = [server] := by
  decide

end Pool

end ServiceCall
