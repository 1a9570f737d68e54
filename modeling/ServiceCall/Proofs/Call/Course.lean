import ServiceCall.Proofs.Call.Exchanges

/-!
The course of a call: which server each attempt goes to, how often the balancer is asked, and where
the call stops. The nested loops of a call follow it.
-/

namespace ServiceCall

variable {σ τ : Type}

/-- The server and the fate of an attempt. -/
def Attempt.outline (attempt : Attempt σ) : Server × Fate :=
  (attempt.server, attempt.fate)

/-- Attempts at one server, all of which failed in a way that may be repeated. -/
def Fruitless (server : Server) (made : List (Server × Fate)) : Prop :=
  ∀ entry ∈ made, entry.1 = server ∧ entry.2.verdict.isRepeatable = true

/--
How a call goes on when the balancer is asked for a server: the answers of the balancer, the
attempts, and the fate that ends the call, which is none when there is no server. At each server the
same number of attempts is allowed, and the call may still move a number of times.
-/
inductive Course (perServer : Nat) :
    Nat → List (Option Server) → List (Server × Fate) → Option Fate → Prop
  /-- The balancer has no server to offer. -/
  | stranded {moves : Nat} : Course perServer moves [none] [] none
  /-- An attempt is over for good, or nothing is left that the call may do. -/
  | ended {moves : Nat} {server : Server} {early : List (Server × Fate)} {last : Fate}
      (fruitless : Fruitless server early) (within : early.length < perServer)
      (spent : last.verdict.isRepeatable = true → moves = 0 ∧ early.length + 1 = perServer) :
      Course perServer moves [some server] (early ++ [(server, last)]) (some last)
  /-- All attempts at a server are used up, and the call moves on. -/
  | moved {moves : Nat} {server : Server} {made later : List (Server × Fate)}
      {answers : List (Option Server)} {ending : Option Fate}
      (fruitless : Fruitless server made) (full : made.length = perServer)
      (goesOn : Course perServer moves answers later ending) :
      Course perServer (moves + 1) (some server :: answers) (made ++ later) ending

namespace Course

variable {perServer moves : Nat} {answers : List (Option Server)}
  {attempts : List (Server × Fate)} {ending : Option Fate}

/-- Each attempt goes to the server that was chosen after all attempts at the earlier ones. -/
theorem server_at (course : Course perServer moves answers attempts ending)
    (positive : 0 < perServer) :
    ∀ (i : Nat) (server : Server) (fate : Fate), attempts[i]? = some (server, fate) →
      answers[i / perServer]? = some (some server) := by
  -- The first server takes the places below the number of attempts it is allowed.
  induction course with
  | stranded => simp
  | @ended moves chosen early last fruitless within spent =>
    intro i server fate found
    have inside : i < early.length + 1 := by
      have := (List.getElem?_eq_some_iff.mp found).1
      simpa using this
    have member := List.mem_of_getElem? found
    -- All attempts of the visit are made at the one server that was chosen.
    have same : server = chosen := by
      rcases List.mem_append.mp member with before | new
      · exact (fruitless _ before).1
      · exact (Prod.mk.inj (List.mem_singleton.mp new)).1
    -- No place of a last visit lies beyond the first block.
    rw [Nat.div_eq_of_lt (by omega), same]
    rfl
  | @moved moves chosen made later answers ending fruitless full goesOn ih =>
    intro i server fate found
    rcases Nat.lt_or_ge i perServer with here | there
    · -- The place lies in the visit to the first server.
      rw [List.getElem?_append_left (by omega)] at found
      rw [Nat.div_eq_of_lt here, (fruitless _ (List.mem_of_getElem? found)).1.symm]
      rfl
    · -- The place lies in the rest of the course, one block further on.
      rw [List.getElem?_append_right (by omega), full] at found
      rw [Nat.div_eq_sub_div positive there, List.getElem?_cons_succ]
      exact ih (i - perServer) server fate found

/-- At each server that was chosen, there is an attempt after all those at the earlier ones. -/
theorem block_start (course : Course perServer moves answers attempts ending)
    (positive : 0 < perServer) :
    ∀ (i : Nat) (server : Server), answers[i]? = some (some server) →
      i * perServer < attempts.length := by
  -- The induction is on the course; a visit that was moved on from is a whole block.
  induction course with
  | stranded =>
    intro i server asked
    simp [List.getElem?_singleton] at asked
  | @ended moves chosen early last fruitless within spent =>
    intro i server asked
    have only : i < 1 := (List.getElem?_eq_some_iff.mp asked).1
    simp [Nat.lt_one_iff.mp only]
  | @moved moves chosen made later answers ending fruitless full goesOn ih =>
    intro i server asked
    rw [List.length_append, full]
    cases i with
    | zero => omega
    | succ i =>
      have further := ih i server (by simpa using asked)
      rw [Nat.succ_mul]
      omega

/-- A call that finds no server has used up every server before, without any result. -/
theorem of_stranded (course : Course perServer moves answers attempts none) :
    ∃ served, answers = served ++ [none] ∧ none ∉ served ∧ served.length ≤ moves ∧
      attempts.length = served.length * perServer ∧
      ∀ entry ∈ attempts, entry.2.verdict.isRepeatable = true := by
  -- The induction is on the course, of which only the one without an end is left.
  generalize nowhere : (none : Option Fate) = ending at course
  induction course with
  | stranded => exact ⟨[], by simp⟩
  | ended => cases nowhere
  | @moved moves chosen made later answers ending fruitless full goesOn ih =>
    obtain ⟨served, asked, found, bounded, count, repeatable⟩ := ih nowhere
    -- The visit that was moved on from is one more block that is used up.
    refine ⟨some chosen :: served, by simp [asked], by simp [found], by simpa using bounded,
      ?_, ?_⟩
    · simp only [List.length_append, List.length_cons, full, count]
      rw [Nat.succ_mul]
      omega
    · intro entry member
      rcases List.mem_append.mp member with here | there
      · exact (fruitless entry here).2
      · exact repeatable entry there

/--
A call that finds a server each time has used up every server but the last one, and stops there at
the first attempt that is over for good, or with its last attempt.
-/
theorem of_ended {last : Fate} (course : Course perServer moves answers attempts (some last)) :
    none ∉ answers ∧ ∃ earlier, answers.length = earlier + 1 ∧ earlier ≤ moves ∧
      earlier * perServer < attempts.length ∧ attempts.length ≤ earlier * perServer + perServer ∧
      (last.verdict.isRepeatable = true →
        earlier = moves ∧ attempts.length = earlier * perServer + perServer) ∧
      ∃ before server, attempts = before ++ [(server, last)] ∧
        ∀ entry ∈ before, entry.2.verdict.isRepeatable = true := by
  -- The induction is on the course; the last visit gives the bounds, and each earlier one a block.
  generalize somewhere : some last = ending at course
  induction course with
  | stranded => cases somewhere
  | @ended moves chosen early final fruitless within spent =>
    obtain rfl := Option.some.inj somewhere
    -- The last visit alone has no full block before it.
    refine ⟨by simp, 0, by simp, Nat.zero_le moves, by simp,
      by simpa using Nat.succ_le_of_lt within, ?_, early, chosen, rfl,
      fun entry member => (fruitless entry member).2⟩
    intro repeatable
    obtain ⟨still, full⟩ := spent repeatable
    exact ⟨still.symm, by simpa using full⟩
  | @moved moves chosen made later answers ending fruitless full goesOn ih =>
    obtain ⟨found, earlier, asked, bounded, more, most, exact, before, server, rfl, repeatable⟩ :=
      ih somewhere
    -- One more block before the others moves both bounds by as much.
    simp only [List.length_append, List.length_cons, List.length_nil] at more most exact
    refine ⟨by simp [found], earlier + 1, by simp [asked], by omega, ?_, ?_, ?_,
      made ++ before, server, by simp, ?_⟩
    · simp only [List.length_append, List.length_cons, List.length_nil, full, Nat.succ_mul]
      omega
    · simp only [List.length_append, List.length_cons, List.length_nil, full, Nat.succ_mul]
      omega
    · intro final
      obtain ⟨still, count⟩ := exact final
      refine ⟨by omega, ?_⟩
      simp only [List.length_append, List.length_cons, List.length_nil, full, Nat.succ_mul]
      omega
    · intro entry member
      rcases List.mem_append.mp member with here | there
      · exact (fruitless entry here).2
      · exact repeatable entry there

end Course

namespace Executor

/-- What a call comes to after some attempts, by the fate that ended it. -/
def conclusion (executor : Executor σ τ) (attempts : Nat) : Option Fate → Verdict
  | none => .failed (.noServer executor.clientName)
  | some last => last.verdict.ofCall attempts

/-- An attempt is recorded behind the earlier ones, with its server and its fate. -/
theorem attempt_outline (executor : Executor σ τ) (call : Call) (server : Server)
    (progress : Progress σ τ) :
    (executor.attempt call server progress).2.attempts.map Attempt.outline =
      progress.attempts.map Attempt.outline ++
        [(server, (executor.attempt call server progress).1)] := by
  -- Both kinds of attempts are recorded alike.
  obtain ⟨attempt, rfl, _, fate, attempts⟩ := executor.attempt_recorded call server progress
  simp [attempts, fate, Attempt.outline]

/-- The attempts at one server are repeated until one is over for good or no retry is left. -/
theorem tryServer_outline (executor : Executor σ τ) (call : Call) {policy : RetryPolicy}
    (onSame : policy.onSameServer = true) (server : Server) (retries : Nat)
    (progress : Progress σ τ) :
    ∃ early last, Fruitless server early ∧ early.length ≤ retries ∧
      (last.verdict.isRepeatable = true → early.length = retries) ∧
      (executor.tryServer call policy server retries progress).1 = last.verdict ∧
      (executor.tryServer call policy server retries progress).2.attempts.map Attempt.outline =
        progress.attempts.map Attempt.outline ++ (early ++ [(server, last)]) := by
  -- The induction is on the retries that are left.
  have recorded := executor.attempt_outline call server
  induction retries generalizing progress with
  | zero =>
    rw [tryServer_zero]
    -- Without a retry, the only attempt is the last one.
    exact ⟨[], _, by simp [Fruitless], by simp, by simp, rfl, by simp [recorded]⟩
  | succ retries ih =>
    rw [tryServer_succ executor call onSame]
    split
    · -- The attempt is repeated, and stands before those that follow.
      rename_i repeatable
      obtain ⟨early, last, fruitless, within, spent, verdict, attempts⟩ :=
        ih (executor.countRetry true (executor.attempt call server progress).2)
      refine ⟨(server, (executor.attempt call server progress).1) :: early, last, ?_,
        by simpa using within, fun final => by simp [spent final], verdict, ?_⟩
      · intro entry member
        rcases List.mem_cons.mp member with rfl | later
        · exact ⟨rfl, repeatable⟩
        · exact fruitless entry later
      · rw [attempts]
        simp [countRetry, recorded]
    · -- The attempt is over for good.
      rename_i settled
      exact ⟨[], _, by simp [Fruitless], by simp, fun final => absurd final settled, rfl,
        by simp [recorded]⟩

/-- An attempt leaves the answers that the balancer remembers as they are. -/
theorem attempt_answers (executor : Executor σ τ) (call : Call) (server : Server)
    (progress : Progress (σ × List (Option Server)) (τ × List Exchange)) :
    (executor.remembering.attempt call server progress).2.balancer.2 = progress.balancer.2 := by
  -- Only a choice is remembered, and no attempt chooses.
  rcases executor.remembering.attempt_cases call server progress with
    ⟨error, _, made⟩ | ⟨uri, reply, transport, _, _, made⟩
  · rw [made]
  · rw [made]
    simp only [report_remembering, recordStart_remembering]

/-- The attempts at a server leave the answers that the balancer remembers as they are. -/
theorem tryServer_answers (executor : Executor σ τ) (call : Call) {policy : RetryPolicy}
    (onSame : policy.onSameServer = true) (server : Server) (retries : Nat)
    (progress : Progress (σ × List (Option Server)) (τ × List Exchange)) :
    (executor.remembering.tryServer call policy server retries progress).2.balancer.2 =
      progress.balancer.2 := by
  -- Neither attempts nor retries choose.
  have kept : executor.remembering.KeptAt call server fun next =>
      next.balancer.2 = progress.balancer.2 :=
    ⟨fun next same => (executor.attempt_answers call server next).trans same,
      fun _ _ same => same⟩
  exact kept.tryServer onSame retries progress rfl

/-- The loop over servers follows a course, and its verdict is what the course comes to. -/
theorem tryServers_course (executor : Executor σ τ) (call : Call) {policy : RetryPolicy}
    (onSame : policy.onSameServer = true) (moves : Nat)
    (onNext : 0 < moves → policy.onNextServer = true)
    (progress : Progress (σ × List (Option Server)) (τ × List Exchange)) :
    ∃ answers made ending,
      Course (policy.sameServerRetries + 1) moves answers made ending ∧
      (executor.remembering.tryServers call policy moves progress).2.balancer.2 =
        progress.balancer.2 ++ answers ∧
      (executor.remembering.tryServers call policy moves progress).2.attempts.map
        Attempt.outline = progress.attempts.map Attempt.outline ++ made ∧
      (executor.remembering.tryServers call policy moves progress).1 = executor.conclusion
        (executor.remembering.tryServers call policy moves progress).2.attempts.length ending := by
  -- The induction is on the moves that are left, and each turn asks the balancer once.
  induction moves using Nat.strongRecOn generalizing progress with
  | ind moves ih =>
    cases asked : executor.balancer.choose (some executor.clientName) progress.balancer.1 with
    | mk answer balancer =>
      have remembered := choose_remembering asked
      cases answer with
      | none =>
        -- Without an answer, nothing more is attempted.
        rw [tryServers_none executor.remembering call policy moves progress remembered]
        exact ⟨[none], [], none, .stranded, rfl, by simp, rfl⟩
      | some server =>
        -- The visit to the server is one block of attempts, and does not choose.
        obtain ⟨early, last, fruitless, within, spent, verdict, attempts⟩ :=
          executor.remembering.tryServer_outline call onSame server policy.sameServerRetries
            { progress with balancer := (balancer, progress.balancer.2 ++ [some server]) }
        have noted := executor.tryServer_answers call onSame server policy.sameServerRetries
          { progress with balancer := (balancer, progress.balancer.2 ++ [some server]) }
        rw [tryServers_some executor.remembering call onNext progress remembered rfl]
        split
        · -- The attempts at this server are used up, and the rest of the course follows.
          rename_i goes
          have repeatable : last.verdict.isRepeatable = true := verdict ▸ goes.2
          obtain ⟨answers, made, ending, course, later, more, concluded⟩ :=
            ih (moves - 1) (by omega) (fun _ => onNext goes.1)
              (executor.remembering.countRetry false _)
          refine ⟨some server :: answers, (early ++ [(server, last)]) ++ made, ending, ?_, ?_, ?_,
            concluded⟩
          · obtain ⟨rest, rfl⟩ := Nat.exists_eq_add_one_of_ne_zero (Nat.ne_of_gt goes.1)
            refine .moved ?_ (by simp [spent repeatable]) course
            intro entry member
            rcases List.mem_append.mp member with before | new
            · exact fruitless entry before
            · obtain rfl := List.mem_singleton.mp new
              exact ⟨rfl, repeatable⟩
          · rw [later]
            simp [countRetry, noted]
          · rw [more]
            simp [countRetry, attempts]
        · -- The call ends here, since nothing may be repeated or no move is left.
          rename_i stays
          refine ⟨[some server], early ++ [(server, last)], some last,
            .ended fruitless (by omega) ?_, noted, attempts, ?_⟩
          · intro repeatable
            have still : ¬0 < moves := fun positive => stays ⟨positive, verdict ▸ repeatable⟩
            exact ⟨by omega, by rw [spent repeatable]⟩
          · rw [verdict]
            rfl

/-- A call follows a course with the retries and the moves of its policy. -/
theorem run_course (executor : Executor σ τ) (call : Call) (balancer : σ) (transport : τ) :
    ∃ ending,
      Course (executor.config.sameServerRetries + 1)
        (executor.retryPolicy call.request).nextServerRetries
        (executor.answers call balancer transport)
        ((executor.run call balancer transport).2.attempts.map Attempt.outline) ending ∧
      (executor.run call balancer transport).1 = executor.conclusion
        (executor.run call balancer transport).2.attempts.length ending := by
  -- The loop starts with nothing remembered and nothing recorded.
  have loop := executor.tryServers_course call rfl
    (executor.retryPolicy call.request).nextServerRetries retryPolicy_onNextServer
    { balancer := (balancer, []), transport := (transport, []) }
  obtain ⟨answers, made, ending, course, noted, attempts, concluded⟩ := loop
  simp only [List.map_nil, List.nil_append] at noted attempts
  -- What the balancer and the transport remember is no part of an outline.
  have outlines : (executor.run call balancer transport).2.attempts.map Attempt.outline = made := by
    rw [run_remembering, ← attempts]
    simp only [Progress.forget, List.map_map]
    rfl
  refine ⟨ending, ?_, ?_⟩
  · rw [outlines, show executor.answers call balancer transport = answers from noted]
    exact course
  · rw [run_remembering]
    simp only [Progress.forget, List.length_map]
    exact concluded

/-- Each attempt goes to the server chosen after all attempts at the earlier ones. -/
theorem run_server_at (executor : Executor σ τ) (call : Call) (balancer : σ) (transport : τ)
    {i : Nat} {attempt : Attempt σ}
    (found : (executor.run call balancer transport).2.attempts[i]? = some attempt) :
    (executor.answers call balancer transport)[i / (executor.config.sameServerRetries + 1)]? =
      some (some attempt.server) := by
  -- The outline of an attempt keeps its server.
  obtain ⟨ending, course, _⟩ := executor.run_course call balancer transport
  exact course.server_at (Nat.succ_pos _) i attempt.server attempt.fate
    (by simp [found, Attempt.outline])

/-- Each server that was chosen is attempted, after all attempts at the earlier ones. -/
theorem run_attempted (executor : Executor σ τ) (call : Call) (balancer : σ) (transport : τ)
    {i : Nat} {server : Server}
    (asked : (executor.answers call balancer transport)[i]? = some (some server)) :
    ∃ attempt, (executor.run call balancer transport).2.attempts[
        i * (executor.config.sameServerRetries + 1)]? = some attempt ∧
      attempt.server = server := by
  obtain ⟨ending, course, _⟩ := executor.run_course call balancer transport
  have reached := course.block_start (Nat.succ_pos _) i server asked
  rw [List.length_map] at reached
  refine ⟨_, List.getElem?_eq_getElem reached, ?_⟩
  -- The first attempt of a block goes to the server that the block belongs to.
  have there := executor.run_server_at call balancer transport (List.getElem?_eq_getElem reached)
  rw [Nat.mul_div_cancel i (Nat.succ_pos _), asked] at there
  exact (Option.some.inj (Option.some.inj there)).symm

/-- Without a server in the end, a call has used up all attempts at those it was offered. -/
theorem run_stranded (executor : Executor σ τ) (call : Call) (balancer : σ) (transport : τ)
    (refused : none ∈ executor.answers call balancer transport) :
    (executor.run call balancer transport).1 = .failed (.noServer executor.clientName) ∧
      ∃ served, executor.answers call balancer transport = served ++ [none] ∧ none ∉ served ∧
        served.length ≤ (executor.retryPolicy call.request).nextServerRetries ∧
        (executor.run call balancer transport).2.attempts.length =
          served.length * (executor.config.sameServerRetries + 1) ∧
        ∀ attempt ∈ (executor.run call balancer transport).2.attempts,
          attempt.fate.verdict.isRepeatable = true := by
  obtain ⟨ending, course, concluded⟩ := executor.run_course call balancer transport
  -- A course that ends at a server was never refused one.
  cases ending with
  | some last => exact absurd refused course.of_ended.1
  | none =>
    obtain ⟨served, asked, found, bounded, count, repeatable⟩ := course.of_stranded
    refine ⟨concluded, served, asked, found, bounded, by simpa using count, ?_⟩
    intro attempt member
    exact repeatable attempt.outline (List.mem_map_of_mem member)

/-- With a server each time, a call ends with the verdict on its last attempt. -/
theorem run_ended (executor : Executor σ τ) (call : Call) (balancer : σ) (transport : τ)
    (offered : none ∉ executor.answers call balancer transport) :
    ∃ earlier before last,
      (executor.run call balancer transport).2.attempts = before ++ [last] ∧
      (executor.run call balancer transport).1 = last.fate.verdict.ofCall (before.length + 1) ∧
      (∀ attempt ∈ before, attempt.fate.verdict.isRepeatable = true) ∧
      (executor.answers call balancer transport).length = earlier + 1 ∧
      earlier ≤ (executor.retryPolicy call.request).nextServerRetries ∧
      earlier * (executor.config.sameServerRetries + 1) ≤ before.length ∧
      before.length < earlier * (executor.config.sameServerRetries + 1) +
        (executor.config.sameServerRetries + 1) ∧
      (last.fate.verdict.isRepeatable = true →
        earlier = (executor.retryPolicy call.request).nextServerRetries ∧
        before.length + 1 = earlier * (executor.config.sameServerRetries + 1) +
          (executor.config.sameServerRetries + 1)) := by
  obtain ⟨ending, course, concluded⟩ := executor.run_course call balancer transport
  cases ending with
  | none =>
    -- A course without an end was refused a server.
    obtain ⟨served, asked, _⟩ := course.of_stranded
    exact absurd (by simp [asked]) offered
  | some fate =>
    obtain ⟨_, earlier, asked, bounded, more, most, exact, outlines, server, split, repeatable⟩ :=
      course.of_ended
    -- The attempts split as their outlines do.
    obtain ⟨before, rest, attempts, rfl, final⟩ := List.map_eq_append_iff.mp split
    obtain ⟨last, rfl, shape⟩ := List.map_eq_singleton_iff.mp final
    obtain ⟨rfl, rfl⟩ := Prod.mk.inj shape
    simp only [attempts, List.length_map, List.length_append, List.length_cons,
      List.length_nil, Nat.zero_add] at more most exact concluded
    refine ⟨earlier, before, last, attempts, concluded, ?_, asked, bounded, by omega, by omega,
      exact⟩
    intro attempt member
    exact repeatable attempt.outline (List.mem_map_of_mem member)

end Executor

end ServiceCall
