import Mathlib.Algebra.Order.Floor.Div
import Mathlib.Data.Int.CardIntervalMod
import ServiceCall.Proofs.Balancer.Rotation

/-!
The order in which a rotation offers the live servers of a pool. Choices that find a server are
counted, whatever else is done with the pool, and the count alone says which place is next; so all
places come up equally often while the same servers are live.
-/

namespace ServiceCall

/-- Rounding a quotient up adds one to it unless nothing is left over. -/
theorem ceilDiv_eq_ite (count : Nat) {width : Nat} (positive : 0 < width) :
    count ⌈/⌉ width = count / width + if count % width = 0 then 0 else 1 := by
  have below : width - 1 < width := by omega
  -- The summand below the width carries over exactly when it meets a remainder.
  rw [Nat.ceilDiv_eq_add_pred_div, Nat.add_sub_assoc positive, Nat.add_div positive,
    Nat.div_eq_of_lt below, Nat.mod_eq_of_lt below]
  split <;> split <;> omega

/-- Among some numbers in a row, each remainder is met as often as any other one, or once more. -/
theorem countP_mod_eq (start count : Nat) {width place : Nat} (within : place < width) :
    (List.range count).countP (fun j => (start + j) % width = place) = count / width ∨
      (List.range count).countP (fun j => (start + j) % width = place) = count ⌈/⌉ width := by
  have positive : 0 < width := by omega
  have row : (List.range count).countP (fun j => (start + j) % width = place) =
      Nat.count (fun j => start + j ≡ place [MOD width]) count := by
    rw [Nat.count]
    simp only [Nat.ModEq, Nat.mod_eq_of_lt within]
  -- The numbers in the row are those below its end, without those below its start.
  have split := Nat.count_add (· ≡ place [MOD width]) start count
  rw [Nat.count_modEq_card _ positive, Nat.count_modEq_card _ positive, Nat.mod_eq_of_lt within,
    Nat.add_div positive, Nat.add_mod_eq_ite] at split
  rw [row, ceilDiv_eq_ite count positive]
  have first : start % width < width := Nat.mod_lt _ positive
  have last : count % width < width := Nat.mod_lt _ positive
  split_ifs at split ⊢ <;> omega

namespace Pool

/-- The place among the live servers that the next choice takes, if there is any. -/
def place? (pool : Pool) : Option Nat :=
  match pool.strategy.pick pool.reachable.length with
  | .ok (place, _) => some place
  | .error _ => none

/-- The pools that the choices among some operations are made from, in their order. -/
def choices (pool : Pool) : List Operation → List Pool
  | [] => []
  | .choose :: rest => pool :: choices pool.choose.2 rest
  | op :: rest => choices (pool.perform op) rest

/-- The pools that the choices which find a server are made from. -/
def successes (pool : Pool) (ops : List Operation) : List Pool :=
  (pool.choices ops).filter (·.choose.1.isSome)

variable {pool : Pool} {next : UInt64}

/-- Operations other than choices make no choice. -/
theorem choices_of_ne {op : Operation} (other : op ≠ .choose) (rest : List Operation) :
    pool.choices (op :: rest) = (pool.perform op).choices rest := by
  -- Of all operations only a choice adds a pool to the list.
  cases op with
  | choose => exact absurd rfl other
  | markDown | markUp | recordStart | recordResult | recordRelease => rfl

/-- The choices among later operations are made from where the earlier ones have led. -/
theorem choices_append (pool : Pool) (early late : List Operation) :
    pool.choices (early ++ late) = pool.choices early ++ (pool.performAll early).choices late := by
  -- The induction is on the earlier operations, each of which is done before the next one.
  induction early generalizing pool with
  | nil => rfl
  | cons op rest ih =>
    by_cases choice : op = .choose
    · -- A choice is the head on both sides, so only the tails are compared.
      subst choice
      exact congrArg (pool :: ·) (ih pool.choose.2)
    · rw [List.cons_append, choices_of_ne choice, choices_of_ne choice, ih]
      rfl

/-- Without a choice among some operations, none is made. -/
theorem choices_eq_nil {ops : List Operation} (others : ∀ op ∈ ops, op ≠ .choose) :
    pool.choices ops = [] := by
  -- The induction is on the operations, each of which is done and adds nothing.
  induction ops generalizing pool with
  | nil => rfl
  | cons op rest ih =>
    obtain ⟨other, later⟩ := List.forall_mem_cons.mp others
    rw [choices_of_ne other, ih later]

/-- While no server is marked, all choices are made among the same live servers. -/
theorem reachable_of_unmarked {ops : List Operation}
    (unmarked : ∀ op ∈ ops, op = .choose ∨ op.isReport = true) :
    ∀ state ∈ pool.choices ops, state.reachable = pool.reachable := by
  -- The induction is on the operations, none of which changes what is reachable.
  induction ops generalizing pool with
  | nil => simp [choices]
  | cons op rest ih =>
    obtain ⟨here, later⟩ := List.forall_mem_cons.mp unmarked
    have same := reachable_perform here pool
    intro state member
    by_cases choice : op = .choose
    · -- The pool before the choice is the first one, and the choice keeps what is reachable.
      subst choice
      rcases List.mem_cons.mp member with rfl | among
      · rfl
      · exact (ih later state among).trans same
    · rw [choices_of_ne choice] at member
      exact (ih later state member).trans same

/-- Operations other than choices leave the strategy alone. -/
theorem perform_strategy {op : Operation} (other : op ≠ .choose) :
    (pool.perform op).strategy = pool.strategy := by
  -- Marks and reports rewrite entries, and the strategy is another field.
  cases op with
  | choose => exact absurd rfl other
  | markDown | markUp | recordStart | recordResult | recordRelease => rfl

/-- Without a live server, a choice changes nothing. -/
theorem choose_of_unreachable (unreachable : pool.reachable = []) :
    pool.choose = (none, pool) := by
  -- The strategy refuses to pick among no candidates.
  rw [choose, unreachable]
  rfl

/-- With a live server, a rotation takes the place of its count, and counts the choice. -/
theorem choose_of_reachable (rotating : pool.strategy = .roundRobin next)
    (reachable : pool.reachable ≠ []) :
    pool.place? = some (next.toNat % pool.reachable.length) ∧
      pool.choose = (pool.reachable[next.toNat % pool.reachable.length]?,
        { pool with strategy := .roundRobin (next + 1) }) := by
  -- The strategy does not refuse, and its remainder is within the candidates.
  have some_left : pool.reachable.length ≠ 0 := mt List.length_eq_zero_iff.mp reachable
  have picked : pool.strategy.pick pool.reachable.length =
      .ok (next.toNat % pool.reachable.length, .roundRobin (next + 1)) := by
    rw [rotating, Strategy.pick, if_neg some_left]
  rw [place?, choose, picked]
  exact ⟨rfl, rfl⟩

/-- A choice finds a server exactly if one is live. -/
theorem choose_isSome (pool : Pool) : pool.choose.1.isSome = true ↔ pool.reachable ≠ [] := by
  -- A choice without an answer is the one among no reachable servers.
  rw [Option.isSome_iff_ne_none, ne_eq, choose_eq_none]

/-- The first choice is a success if a server is live, and is passed over otherwise. -/
theorem successes_choose (pool : Pool) (rest : List Operation) :
    pool.successes (.choose :: rest) =
      if pool.reachable = [] then pool.successes rest
      else pool :: pool.choose.2.successes rest := by
  -- The filter keeps the first choice exactly if it finds a server.
  by_cases unreachable : pool.reachable = []
  · simp [successes, choices, unreachable, choose_of_unreachable]
  · simp [successes, choices, unreachable, (choose_isSome pool).mpr]

/-- Operations other than choices are no successes. -/
theorem successes_of_ne {op : Operation} (other : op ≠ .choose) (rest : List Operation) :
    pool.successes (op :: rest) = (pool.perform op).successes rest := by
  -- The operation adds nothing to the choices, so the filter meets nothing new.
  rw [successes, choices_of_ne other]
  rfl

/-- The count of a rotation after some operations is that of the choices which found a server. -/
theorem performAll_strategy (rotating : pool.strategy = .roundRobin next) (ops : List Operation) :
    (pool.performAll ops).strategy =
      .roundRobin (next + UInt64.ofNat (pool.successes ops).length) := by
  -- The induction is on the operations, of which only a success moves the rotation on.
  induction ops generalizing pool next with
  | nil => simpa [performAll, successes, choices] using rotating
  | cons op rest ih =>
    rw [performAll, List.foldl_cons, ← performAll]
    by_cases choice : op = .choose
    · subst choice
      rw [successes_choose]
      by_cases unreachable : pool.reachable = []
      · -- A choice without a live server leaves the count alone.
        rw [if_pos unreachable, perform, choose_of_unreachable unreachable]
        exact ih rotating
      · -- A success counts one on, which is added up modulo the width of the counter.
        obtain ⟨_, chosen⟩ := choose_of_reachable rotating unreachable
        rw [if_neg unreachable, perform, chosen, ih rfl, List.length_cons, UInt64.ofNat_add,
          UInt64.add_assoc, UInt64.add_comm 1]
        rfl
    · rw [successes_of_ne choice]
      exact ih ((perform_strategy choice).trans rotating)

/-- A choice that finds a server is made with the count of those before it. -/
theorem strategy_of_success (rotating : pool.strategy = .roundRobin next) {ops : List Operation}
    {t : Nat} {state : Pool} (found : (pool.successes ops)[t]? = some state) :
    state.strategy = .roundRobin (next + UInt64.ofNat t) := by
  -- The induction is on the operations; a success before this one is counted in both.
  induction ops generalizing pool next t with
  | nil => simp [successes, choices] at found
  | cons op rest ih =>
    by_cases choice : op = .choose
    · subst choice
      rw [successes_choose] at found
      by_cases unreachable : pool.reachable = []
      · rw [if_pos unreachable] at found
        exact ih rotating found
      · rw [if_neg unreachable] at found
        cases t with
        | zero =>
          -- The first success is made with the count that the pool starts with.
          obtain rfl := Option.some.inj found
          simpa using rotating
        | succ t =>
          obtain ⟨_, chosen⟩ := choose_of_reachable rotating unreachable
          rw [List.getElem?_cons_succ, chosen] at found
          rw [ih rfl found, UInt64.ofNat_add, UInt64.add_assoc, UInt64.add_comm 1]
          rfl
    · rw [successes_of_ne choice] at found
      exact ih ((perform_strategy choice).trans rotating) found

/-- As long as its count does not start over, a rotation takes one place after another. -/
theorem place?_of_success (rotating : pool.strategy = .roundRobin next) {ops : List Operation}
    {t : Nat} {state : Pool} (found : (pool.successes ops)[t]? = some state)
    (unwrapped : next.toNat + t < 2 ^ 64) :
    state.reachable ≠ [] ∧
      state.place? = some ((next.toNat + t) % state.reachable.length) ∧
      state.choose.1 = state.reachable[(next.toNat + t) % state.reachable.length]? := by
  -- A success has a live server, so the place is the remainder of the count at it.
  have reachable : state.reachable ≠ [] :=
    (choose_isSome state).mp (List.mem_filter.mp (List.mem_of_getElem? found)).2
  obtain ⟨place, chosen⟩ := choose_of_reachable (strategy_of_success rotating found) reachable
  -- Below the width of the counter, the count is the plain sum.
  have count : (next + UInt64.ofNat t).toNat = next.toNat + t := by
    rw [UInt64.toNat_add, UInt64.toNat_ofNat', Nat.add_mod_mod, Nat.mod_eq_of_lt unwrapped]
  rw [count] at place chosen
  exact ⟨reachable, place, by rw [chosen]⟩

/-- While a server is live at every choice, all choices are successes. -/
theorem successes_of_reachable {ops : List Operation}
    (live : ∀ state ∈ pool.choices ops, state.reachable ≠ []) :
    pool.successes ops = pool.choices ops :=
  List.filter_eq_self.mpr fun state member => (choose_isSome state).mpr (live state member)

/-- While the live servers stay the same, a rotation takes one of them after another. -/
theorem choice_of_steady (rotating : pool.strategy = .roundRobin next) {live : List Server}
    (some_live : live ≠ []) {ops : List Operation}
    (steady : ∀ state ∈ pool.choices ops, state.reachable = live)
    (unwrapped : next.toNat + (pool.choices ops).length ≤ 2 ^ 64) {j : Nat}
    (within : j < (pool.choices ops).length) :
    (pool.choices ops)[j].place? = some ((next.toNat + j) % live.length) ∧
      (pool.choices ops)[j].choose.1 = live[(next.toNat + j) % live.length]? := by
  -- Each choice is a success, and its place is told by the number of those before it.
  have all := successes_of_reachable fun state member => (steady state member).symm ▸ some_live
  have found : (pool.successes ops)[j]? = some (pool.choices ops)[j] := by
    rw [all]
    exact List.getElem?_eq_getElem within
  have chosen := (place?_of_success rotating found (by omega)).2
  rwa [steady _ (List.getElem_mem within)] at chosen

/-- While the live servers stay the same, a rotation takes their places in a row. -/
theorem places_of_steady (rotating : pool.strategy = .roundRobin next) {live : List Server}
    (some_live : live ≠ []) {ops : List Operation}
    (steady : ∀ state ∈ pool.choices ops, state.reachable = live)
    (unwrapped : next.toNat + (pool.choices ops).length ≤ 2 ^ 64) :
    (pool.choices ops).map place? = (List.range (pool.choices ops).length).map fun j =>
      some ((next.toNat + j) % live.length) := by
  -- Both lists are as long as there are choices, and they agree place by place.
  refine List.ext_getElem (by simp) fun j inside _ => ?_
  have within : j < (pool.choices ops).length := by simpa using inside
  simpa using (choice_of_steady rotating some_live steady unwrapped within).1

/-- While the live servers stay the same, their places come up equally often, or once more. -/
theorem countP_place?_of_steady (rotating : pool.strategy = .roundRobin next) {live : List Server}
    {ops : List Operation} (steady : ∀ state ∈ pool.choices ops, state.reachable = live)
    (unwrapped : next.toNat + (pool.choices ops).length ≤ 2 ^ 64) {place : Nat}
    (within : place < live.length) :
    let times := (pool.choices ops).countP (·.place? = some place)
    times = (pool.choices ops).length / live.length ∨
      times = (pool.choices ops).length ⌈/⌉ live.length := by
  -- Counting a place among the choices is counting it in the row of all places taken.
  have row := places_of_steady rotating (List.ne_nil_of_length_pos (by omega)) steady unwrapped
  have times : (pool.choices ops).countP (·.place? = some place) =
      ((pool.choices ops).map place?).countP (· = some place) := by
    rw [List.countP_map]
    rfl
  intro counted
  rw [show counted = _ from times, row, List.countP_map]
  simpa [Function.comp_def] using
    countP_mod_eq next.toNat (pool.choices ops).length within

/-- Reports change no answer, whatever the strategy and the statistics are. -/
theorem answers_of_unreported {down : Server → Bool} {other : Pool} {servers : List Server}
    (marked : flags pool.trackers = flagged down servers)
    (alike : flags other.trackers = flagged down servers)
    (same : other.strategy = pool.strategy) (ops : List Operation) :
    (other.choices (ops.filter (!·.isReport))).map (·.choose.1) =
      (pool.choices ops).map (·.choose.1) := by
  -- The induction is on the operations; both pools keep the same flags and the same strategy.
  induction ops generalizing down pool other with
  | nil => rfl
  | cons op rest ih =>
    have marked' := perform_flags marked op
    have alike' := perform_flags alike op
    cases op with
    | choose =>
      -- The same flags leave the same candidates, and the same strategy picks the same place.
      have live : other.reachable = pool.reachable := by
        rw [reachable_eq, reachable_eq, alike, marked]
      have answer : other.choose.1 = pool.choose.1 ∧
          other.choose.2.strategy = pool.choose.2.strategy := by
        simp only [choose, live, same]
        split <;> exact ⟨rfl, by simp [same]⟩
      rw [List.filter_cons_of_pos rfl]
      exact congrArg₂ List.cons answer.1 (ih marked' alike' answer.2)
    | markDown server | markUp server =>
      rw [List.filter_cons_of_pos rfl]
      exact ih marked' alike' same
    | recordStart server | recordResult server elapsed success | recordRelease server =>
      -- The report is left out on one side, and marks nothing on the other.
      rw [List.filter_cons_of_neg (by simp [Operation.isReport])]
      exact ih marked' alike same

/-- Flags name the servers of the list they are told by. -/
theorem servers_flagged (down : Server → Bool) (servers : List Server) :
    (flagged down servers).map (·.1) = servers := by
  -- Using up a mark changes the flags further on and no server.
  induction servers generalizing down with
  | nil => rfl
  | cons server rest ih => rw [flagged, List.map_cons, ih]

/-- A choice finds no server exactly if every entry is out of rotation. -/
theorem choose_eq_none_iff_alive (pool : Pool) :
    pool.choose.1 = none ↔ ∀ tracker ∈ pool.trackers, tracker.alive = false := by
  -- No server is reachable exactly if the filter for live entries keeps none.
  rw [choose_eq_none, reachable, List.map_eq_nil_iff, List.filter_eq_nil_iff]
  simp only [Bool.not_eq_true]

/--
A choice fails exactly if no entry is live, and then changes nothing. The successful choices, from
zero on, take the entry whose place is their number modulo the number of live entries, whatever was
reported; so any number of choices in a row takes each of the same live entries equally often, or
once more.
-/
theorem performAll_rotates (name : String) (servers : List Server) (ops : List Operation) :
    let fresh := ofServers name servers .freshRoundRobin
    let pool := fresh.performAll ops
    pool.trackers.map (·.server) = servers ∧
    (pool.choose.1 = none ↔ ∀ tracker ∈ pool.trackers, tracker.alive = false) ∧
    (pool.choose.1 = none → pool.choose.2 = pool) ∧
    (∀ (t : Nat) (state : Pool), (fresh.successes ops)[t]? = some state → t < 2 ^ 64 →
      ∃ inside : t % state.reachable.length < state.reachable.length,
        state.place? = some (t % state.reachable.length) ∧
        state.choose.1 = some state.reachable[t % state.reachable.length]) ∧
    (fresh.choices (ops.filter (!·.isReport))).map (·.choose.1) =
      (fresh.choices ops).map (·.choose.1) ∧
    ∀ window : List Operation,
      let k := (pool.choices window).length
      let m := pool.reachable.length
      (∀ state ∈ pool.choices window, flags state.trackers = flags pool.trackers) →
      (fresh.successes ops).length + k ≤ 2 ^ 64 →
      ∀ place < m, (pool.choices window).countP (·.place? = some place) = k / m ∨
        (pool.choices window).countP (·.place? = some place) = k ⌈/⌉ m := by
  intro fresh pool
  have rotating : fresh.strategy = .roundRobin 0 := rfl
  have marked : flags fresh.trackers = flagged (fun _ => false) servers :=
    flags_ofServers name servers .freshRoundRobin
  refine ⟨?_, choose_eq_none_iff_alive pool, fun refused => ?_, ?_,
    answers_of_unreported marked marked rfl ops, ?_⟩
  · -- The flags name the servers in their order.
    have named := congrArg (List.map (·.1)) (performAll_flags marked ops)
    rw [servers_flagged, flags, List.map_map] at named
    exact named
  · -- Nothing was reachable, and the rotation does not move on then.
    rw [choose_of_unreachable ((choose_eq_none pool).mp refused)]
  · -- A rotation that starts afresh has counted the successes and nothing else.
    intro t state found unwrapped
    obtain ⟨reachable, place, chosen⟩ := place?_of_success rotating found (by simpa using unwrapped)
    simp only [UInt64.toNat_zero, Nat.zero_add] at place chosen
    have inside : t % state.reachable.length < state.reachable.length :=
      Nat.mod_lt _ (List.length_pos_iff.mpr reachable)
    exact ⟨inside, place, chosen.trans (List.getElem?_eq_getElem inside)⟩
  · intro window k m steady unwrapped place within
    have counted := performAll_strategy rotating ops
    refine countP_place?_of_steady counted (fun state member => ?_) ?_ within
    · -- The same flags leave the same live servers.
      rw [reachable_eq, reachable_eq, steady state member]
    · -- The count may have started over only if no choice is left.
      have below : (0 + UInt64.ofNat (fresh.successes ops).length).toNat ≤
          (fresh.successes ops).length := by
        rw [UInt64.zero_add, UInt64.toNat_ofNat']
        exact Nat.mod_le _ _
      exact (Nat.add_le_add_right below k).trans unwrapped

end Pool

end ServiceCall
