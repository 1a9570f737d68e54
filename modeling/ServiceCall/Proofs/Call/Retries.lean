import Mathlib.Algebra.Order.Floor.Div
import Mathlib.Order.Bounds.Basic
import Mathlib.Tactic.ByContra
import ServiceCall.Proofs.Call.Delivery

/-!
How many attempts a call makes, at which servers, and what it gives its caller. The attempts are
numbered from one, and so are the servers that the balancer offers.
-/

namespace ServiceCall

variable {σ τ : Type}

/-- What a caller that waits gets from an attempt: a response or a failure. -/
def Fate.outcome? : Fate → Option (Except CallError CallResponse)
  | .answered response _ => some (.ok response)
  | .unbound error | .failed error _ => some (.error error)
  | .abandoned _ => none

/-- An attempt that a call never repeats: it gave a response, or failed for good. -/
def Fate.IsFinal (fate : Fate) : Prop :=
  (∃ response, fate.outcome? = some (.ok response)) ∨
    ∃ error, fate.outcome? = some (.error error) ∧ error.isRetriable = false

/-- A failure may be repeated exactly if it is retriable. -/
theorem Fate.isRepeatable_of_error {fate : Fate} {error : CallError}
    (failed : fate.outcome? = some (.error error)) :
    fate.verdict.isRepeatable = error.isRetriable := by
  -- The failures of both kinds keep their error in the verdict.
  cases fate <;> simp [Fate.outcome?] at failed <;> rw [← failed] <;> rfl

/-- A response is never asked for again. -/
theorem Fate.isRepeatable_of_response {fate : Fate} {response : CallResponse}
    (answered : fate.outcome? = some (.ok response)) : fate.verdict.isRepeatable = false := by
  -- No failure has a response for its outcome.
  cases fate <;> simp [Fate.outcome?] at answered
  rfl

/-- An attempt with an outcome is final unless it may be repeated. -/
theorem Fate.isFinal_iff {fate : Fate} {outcome : Except CallError CallResponse}
    (came : fate.outcome? = some outcome) :
    fate.IsFinal ↔ fate.verdict.isRepeatable = false := by
  cases outcome with
  | ok response =>
    -- A response is final and never repeated.
    rw [Fate.isRepeatable_of_response came]
    exact ⟨fun _ => rfl, fun _ => .inl ⟨response, came⟩⟩
  | error error =>
    -- A failure is final exactly if it is not retriable.
    rw [Fate.isRepeatable_of_error came]
    refine ⟨fun final => ?_, fun permanent => .inr ⟨error, came, permanent⟩⟩
    rcases final with ⟨response, answered⟩ | ⟨same, failed, permanent⟩
    · rw [came] at answered
      cases answered
    · rw [came] at failed
      obtain rfl := Except.error.inj (Option.some.inj failed)
      exact permanent

/-- The verdict of a call whose last attempt had an outcome, by the number of its attempts. -/
def Verdict.ofOutcome (attempts : Nat) : Except CallError CallResponse → Verdict
  | .ok response => .answered response
  | .error error =>
    .failed (if attempts = 1 then error else .retriesExhausted attempts error)

/-- A call that ends with an outcome after some attempts counts them only if it fails. -/
theorem Fate.ofCall_outcome {fate : Fate} {outcome : Except CallError CallResponse}
    (came : fate.outcome? = some outcome) (attempts : Nat) :
    fate.verdict.ofCall attempts = .ofOutcome attempts outcome := by
  -- Only the abandoned attempt has no outcome.
  cases fate with
  | abandoned elapsed => simp [Fate.outcome?] at came
  | answered response elapsed =>
    obtain rfl := Option.some.inj came
    rfl
  | unbound error =>
    obtain rfl := Option.some.inj came
    rfl
  | failed error elapsed =>
    obtain rfl := Option.some.inj came
    rfl

/-- Every attempt of a call without a limit has an outcome. -/
theorem Attempt.Genuine.outcome {executor : Executor σ τ} {call : Call} {attempt : Attempt σ}
    (genuine : attempt.Genuine executor call) (patient : call.patience = none) :
    ∃ outcome, attempt.fate.outcome? = some outcome := by
  -- Only an attempt that its caller gave up has none.
  cases went : attempt.fate with
  | abandoned elapsed => exact absurd went ((genuine.complete patient).2 elapsed)
  | unbound error => exact ⟨_, rfl⟩
  | answered response elapsed => exact ⟨_, rfl⟩
  | failed error elapsed => exact ⟨_, rfl⟩

/-- An attempt at a server that cannot be aimed at is final. -/
theorem Attempt.Genuine.isFinal_of_unbound {executor : Executor σ τ} {call : Call}
    {attempt : Attempt σ} (genuine : attempt.Genuine executor call) {error : CallError}
    (unbound : bindUri executor.config executor.introspector attempt.server
      call.request.uri = .error error) : attempt.fate.IsFinal := by
  -- A fault of the URI is the same in every attempt at the server.
  obtain ⟨fault, rfl⟩ := bindUri_error unbound
  exact .inr ⟨_, by rw [(genuine.unbound _ unbound).2]; rfl, rfl⟩

/-- The places up to the end of a block are counted by the blocks that are begun. -/
theorem ceilDiv_eq_of_within {count blocks width : Nat} (begun : blocks * width < count)
    (within : count ≤ blocks * width + width) : count ⌈/⌉ width = blocks + 1 := by
  -- The division rounds up, and the last block is not empty.
  rw [Nat.ceilDiv_eq_add_pred_div]
  apply Nat.div_eq_of_lt_le
  · rw [Nat.succ_mul]
    omega
  · rw [Nat.succ_mul, Nat.succ_mul]
    omega

/-- The block of a place, counted from one, is one more than the blocks that lie before it. -/
theorem ceilDiv_sub_one {place width : Nat} (positive : 0 < width) (counted : 1 ≤ place) :
    place ⌈/⌉ width - 1 = (place - 1) / width := by
  -- To count from one is to move up by one place, and rounding up makes up for it.
  rw [Nat.ceilDiv_eq_add_pred_div, show place + width - 1 = place - 1 + width by omega,
    Nat.add_div_right _ positive, Nat.add_sub_cancel]

/--
The first place that is final, or else the last place allowed, is the end of a list in which only
the last entry may be final, and is unless nothing more is allowed.
-/
theorem isLeast_length {α : Type} {Final : α → Prop} {before : List α} {last : α} {allowed : Nat}
    (pending : ∀ entry ∈ before, ¬Final entry) (within : before.length + 1 ≤ allowed)
    (spent : ¬Final last → before.length + 1 = allowed) :
    IsLeast {i : Nat | 1 ≤ i ∧
      ((∃ entry, (before ++ [last])[i - 1]? = some entry ∧ Final entry) ∨ i = allowed)}
      (before.length + 1) := by
  refine ⟨⟨by omega, ?_⟩, ?_⟩
  · -- The end is such a place, for one reason or the other.
    by_cases final : Final last
    · exact .inl ⟨last, by simp, final⟩
    · exact .inr (spent final)
  · -- A smaller place is below what is allowed, and its entry is not the last one.
    rintro i ⟨counted, ⟨entry, found, final⟩ | rfl⟩
    · by_contra smaller
      rw [List.getElem?_append_left (by omega)] at found
      exact pending entry (List.mem_of_getElem? found) final
    · exact within

namespace Executor

/-- An attempt of a call without a limit that may be repeated is not final. -/
theorem not_isFinal_of_isRepeatable (executor : Executor σ τ) {call : Call}
    (patient : call.patience = none) (balancer : σ) (transport : τ) {attempt : Attempt σ}
    (member : attempt ∈ (executor.run call balancer transport).2.attempts)
    (repeatable : attempt.fate.verdict.isRepeatable = true) : ¬attempt.fate.IsFinal := by
  -- Such an attempt has an outcome, which is final only if it is not repeated.
  obtain ⟨outcome, came⟩ :=
    (executor.run_genuine call balancer transport attempt member).outcome patient
  simp [Fate.isFinal_iff came, repeatable]

/-- A call that is offered a server each time stops at its first final attempt, or with its last. -/
theorem run_offered (executor : Executor σ τ) {call : Call} (patient : call.patience = none)
    (balancer : σ) (transport : τ) {perServer moves : Nat}
    (width : executor.config.sameServerRetries + 1 = perServer)
    (allowed : (executor.retryPolicy call.request).nextServerRetries = moves)
    (offered : none ∉ executor.answers call balancer transport) :
    let attempts := (executor.run call balancer transport).2.attempts
    IsLeast {i : Nat | 1 ≤ i ∧
      ((∃ attempt, attempts[i - 1]? = some attempt ∧ attempt.fate.IsFinal) ∨
        i = perServer * (1 + moves))} attempts.length ∧
    (executor.answers call balancer transport).length = attempts.length ⌈/⌉ perServer ∧
    ∃ last outcome, attempts[attempts.length - 1]? = some last ∧
      last.fate.outcome? = some outcome ∧
      (executor.run call balancer transport).1 = .ofOutcome attempts.length outcome := by
  intro attempts
  -- The attempts are those before the last one, of which nothing came, and the last one.
  obtain ⟨earlier, before, last, split, concluded, repeatable, asked, within, more, most,
    spent⟩ := executor.run_ended call balancer transport offered
  rw [allowed] at within spent
  rw [width] at more most spent
  have listed : attempts = before ++ [last] := split
  have count : attempts.length = before.length + 1 := by simp [listed]
  have budget : earlier * perServer + perServer ≤ perServer * (1 + moves) := by
    rw [← Nat.succ_mul, Nat.mul_comm, Nat.add_comm 1 moves]
    exact Nat.mul_le_mul_left perServer (Nat.succ_le_succ within)
  obtain ⟨outcome, came⟩ := (executor.run_genuine call balancer transport last
    (by simp [split])).outcome patient
  refine ⟨?_, ?_, last, outcome, by simp [listed], came, ?_⟩
  · -- Only a last attempt that may be repeated has to use up all that is allowed.
    rw [count, listed]
    refine isLeast_length (fun attempt member => ?_) (by omega) (fun unfinished => ?_)
    · exact executor.not_isFinal_of_isRepeatable patient balancer transport
        (by simp [split, member]) (repeatable attempt member)
    · rw [Fate.isFinal_iff came, Bool.not_eq_false] at unfinished
      obtain ⟨rfl, full⟩ := spent unfinished
      rw [full, ← Nat.succ_mul, Nat.mul_comm, Nat.add_comm 1]
  · rw [count, asked]
    exact (ceilDiv_eq_of_within (by omega) (by omega)).symm
  · rw [count, concluded, Fate.ofCall_outcome came]

/-- A final attempt is the last one of its call. -/
theorem run_final_last (executor : Executor σ τ) {call : Call} (patient : call.patience = none)
    (balancer : σ) (transport : τ) {i : Nat} {attempt : Attempt σ} (counted : 1 ≤ i)
    (found : (executor.run call balancer transport).2.attempts[i - 1]? = some attempt)
    (final : attempt.fate.IsFinal) :
    i = (executor.run call balancer transport).2.attempts.length := by
  have reached := (List.getElem?_eq_some_iff.mp found).1
  by_cases refused : none ∈ executor.answers call balancer transport
  · -- A call that finds no server in the end made only attempts that may be repeated.
    obtain ⟨_, _, _, _, _, _, repeatable⟩ :=
      executor.run_stranded call balancer transport refused
    have member := List.mem_of_getElem? found
    exact absurd final (executor.not_isFinal_of_isRepeatable patient balancer transport member
      (repeatable attempt member))
  · -- The length of the call is the least place that is final or the last one allowed.
    have stops := executor.run_offered patient balancer transport rfl rfl refused
    have least := stops.1.2 ⟨counted, .inl ⟨attempt, found, final⟩⟩
    omega

/--
A call stops after its first attempt that is final, or after as many attempts as the retries on one
server and the moves to others allow. It asks for a server whenever the attempts at the last one are
used up, and gives its caller the response or the failure of its last attempt. The record of the
call tells what the balancer and the transport have seen of it.
-/
theorem run_stops_at_first_final_attempt (executor : Executor σ τ) (request : Request)
    (override : Option TimeoutOverride) (balancer : σ) (transport : τ) :
    let call : Call := { request, timeouts := executor.effectiveTimeouts override }
    let perServer := 1 + executor.config.sameServerRetries
    let moves := if request.method = .get ∨ executor.config.retryAllOperations = true
      then executor.config.nextServerRetries else 0
    let verdict := (executor.run call balancer transport).1
    let attempts := (executor.run call balancer transport).2.attempts
    let answers := executor.answers call balancer transport
    let exchanges := executor.exchanges call balancer transport
    let k := attempts.length
    (none ∉ answers →
      IsLeast {i : Nat | 1 ≤ i ∧
        ((∃ attempt, attempts[i - 1]? = some attempt ∧ attempt.fate.IsFinal) ∨
          i = perServer * (1 + moves))} k ∧
      answers.length = k ⌈/⌉ perServer ∧
      ∃ last outcome, attempts[k - 1]? = some last ∧ last.fate.outcome? = some outcome ∧
        verdict = .ofOutcome k outcome) ∧
    (none ∈ answers →
      verdict = .failed (.noServer executor.config.clientName) ∧
      ∃ served, answers = served ++ [none] ∧ none ∉ served ∧ served.length ≤ moves ∧
        k = served.length * perServer ∧ ∀ attempt ∈ attempts, ¬attempt.fate.IsFinal) ∧
    (∀ (i : Nat) (attempt : Attempt σ), 1 ≤ i → attempts[i - 1]? = some attempt →
      answers[i ⌈/⌉ perServer - 1]? = some (some attempt.server)) ∧
    (∀ (i : Nat) (attempt : Attempt σ) (error : CallError), 1 ≤ i →
      attempts[i - 1]? = some attempt →
      bindUri executor.config executor.introspector attempt.server request.uri = .error error →
      i = k ∧ attempt.sending = none ∧ attempt.fate = .unbound error) ∧
    executor.Recorded call answers exchanges attempts := by
  intro call perServer moves verdict attempts answers exchanges k
  have width : executor.config.sameServerRetries + 1 = perServer := Nat.add_comm _ _
  have allowed : (executor.retryPolicy call.request).nextServerRetries = moves :=
    executor.retryPolicy_moves request
  refine ⟨executor.run_offered rfl balancer transport width allowed, fun refused => ?_, ?_, ?_,
    executor.run_recorded call balancer transport⟩
  · -- Nothing came of any attempt when there is no server in the end.
    obtain ⟨concluded, served, asked, found, within, count, repeatable⟩ :=
      executor.run_stranded call balancer transport refused
    exact ⟨concluded, served, asked, found, allowed ▸ within, width ▸ count,
      fun attempt member => executor.not_isFinal_of_isRepeatable rfl balancer transport member
        (repeatable attempt member)⟩
  · -- Places counted from one fall into the same blocks as places counted from zero.
    intro i attempt counted found
    rw [ceilDiv_sub_one (width ▸ Nat.succ_pos _) counted, ← width]
    exact executor.run_server_at call balancer transport found
  · -- A server that cannot be aimed at fails for good, so nothing follows the attempt.
    intro i attempt error counted found unbound
    have genuine := executor.run_genuine call balancer transport attempt
      (List.mem_of_getElem? found)
    exact ⟨executor.run_final_last rfl balancer transport counted found
      (genuine.isFinal_of_unbound unbound), genuine.unbound error unbound⟩

/--
A call that may repeat once at each of two servers is answered in its fourth attempt, the second one
at the second server.
-/
theorem run_stops_at_first_final_attempt_fourth :
    let executor : Executor Nat Nat :=
      { config := { ClientConfig.ofName "items" with sameServerRetries := 1 }
        introspector := .standard
        balancer :=
          { choose := fun _ asked =>
              (some { host := if asked = 0 then "a" else "b", port := 8080 }, asked + 1)
            reachable := fun _ => [] }
        transport := fun _ _ asked =>
          (⟨.zero, if asked = 3 then .ok { status := 404 } else .error (.io "refused")⟩,
            asked + 1) }
    let uri : Url :=
      { scheme := "http", host := some (.domain "items"), path := .segments ["list"] }
    let request : Request := { method := .get, uri }
    let call : Call := { request, timeouts := executor.effectiveTimeouts none }
    let attempts := (executor.run call 0 0).2.attempts
    (executor.exchanges call 0 0).map (·.request.uri.authority) =
        ["//a:8080", "//a:8080", "//b:8080", "//b:8080"] ∧
      (executor.answers call 0 0).length = 2 ∧
      IsLeast {i : Nat | 1 ≤ i ∧
        ((∃ attempt, attempts[i - 1]? = some attempt ∧ attempt.fate.IsFinal) ∨ i = 4)} 4 := by
  -- Three attempts are refused, and a response of any status is final.
  intro executor uri request call attempts
  have offered : none ∉ executor.answers call 0 0 := by decide +kernel
  have count : attempts.length = 4 := by decide +kernel
  have stops := executor.run_stops_at_first_final_attempt request none 0 0
  have least : IsLeast {i : Nat | 1 ≤ i ∧
      ((∃ attempt, attempts[i - 1]? = some attempt ∧ attempt.fate.IsFinal) ∨ i = 4)}
      attempts.length := (stops.1 offered).1
  rw [count] at least
  exact ⟨by decide +kernel, by decide +kernel, least⟩

end Executor

end ServiceCall
