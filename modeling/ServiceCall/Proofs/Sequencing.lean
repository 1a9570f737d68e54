import Mathlib.Data.List.Forall2
import ServiceCall.Failure

/-! When computations that can fail succeed or fail, and with which results. -/

namespace ServiceCall

variable {ε δ α β : Type}

/-- Two steps after each other succeed when the first one does and then the second one. -/
theorem bind_ok_iff {first : Except ε α} {second : α → Except ε β} {result : β} :
    (first >>= second) = .ok result ↔
      ∃ value, first = .ok value ∧ second value = .ok result := by
  -- After a failure the second step is not made.
  cases first with
  | error problem => simp [bind, Except.bind]
  | ok value => simp [bind, Except.bind]

/-- A check before a step succeeds, and then the step does. -/
theorem check_ok_iff {check : Except ε Unit} {step : Except ε β} {result : β} :
    (check >>= fun _ => step) = .ok result ↔ check = .ok () ∧ step = .ok result :=
  bind_ok_iff.trans
    ⟨fun ⟨_, passed, done⟩ => ⟨passed, done⟩, fun ⟨passed, done⟩ => ⟨(), passed, done⟩⟩

/-- Two steps after each other fail when the first one does, or else when the second one does. -/
theorem bind_error_iff {first : Except ε α} {second : α → Except ε β} {problem : ε} :
    (first >>= second) = .error problem ↔
      first = .error problem ∨ ∃ value, first = .ok value ∧ second value = .error problem := by
  -- The failure of the first step is that of both.
  cases first with
  | error problem => simp [bind, Except.bind]
  | ok value => simp [bind, Except.bind]

/-- A step whose result is wrapped succeeds when the step does. -/
theorem map_ok_iff {step : Except ε α} {wrap : α → β} {result : β} :
    step.map wrap = .ok result ↔ ∃ value, step = .ok value ∧ wrap value = result := by
  -- The wrapping is applied to a value, if there is one.
  cases step with
  | error problem => simp [Except.map]
  | ok value => simp [Except.map]

/-- A step whose failures are reworded succeeds when the step does. -/
theorem mapError_ok_iff {step : Except ε α} {reword : ε → δ} {result : α} :
    step.mapError reword = .ok result ↔ step = .ok result := by
  cases step with
  | error problem => exact iff_of_false nofun nofun
  | ok value =>
    -- Both sides say that the values are the same, in types with other failures.
    exact ⟨fun same => congrArg _ (Except.ok.inj same), fun same => congrArg _ (Except.ok.inj same)⟩

/-- A step whose result is wrapped fails as the step does. -/
theorem map_error_iff {step : Except ε α} {wrap : α → β} {problem : ε} :
    step.map wrap = .error problem ↔ step = .error problem := by
  cases step with
  | error problem =>
    -- Both sides say that the failures are the same, in types with other values.
    exact ⟨fun same => congrArg _ (Except.error.inj same),
      fun same => congrArg _ (Except.error.inj same)⟩
  | ok value => exact iff_of_false nofun nofun

/-- A step whose failures are reworded fails with the wording of its failure. -/
theorem mapError_error_iff {step : Except ε α} {reword : ε → δ} {problem : δ} :
    step.mapError reword = .error problem ↔
      ∃ reason, step = .error reason ∧ reword reason = problem := by
  -- The rewording is applied to a failure, if there is one.
  cases step with
  | error reason => simp [Except.mapError]
  | ok value => simp [Except.mapError]

/-- A list is made of a first result and others when both succeed. -/
theorem cons_ok_iff {first : Except ε α} {wrap : α → β} {others : Except ε (List β)}
    {results : List β} :
    (first >>= fun value => others >>= fun values => .ok (wrap value :: values)) = .ok results ↔
      ∃ result values, (∃ value, first = .ok value ∧ result = wrap value) ∧
        others = .ok values ∧ results = result :: values := by
  -- The list is put together when both parts are there.
  simp only [bind_ok_iff]
  constructor
  · rintro ⟨value, here, values, later, same⟩
    exact ⟨wrap value, values, ⟨value, here, rfl⟩, later, (Except.ok.inj same).symm⟩
  · rintro ⟨_, values, ⟨value, here, rfl⟩, later, rfl⟩
    exact ⟨value, here, values, later, rfl⟩

/-- A list of a first result and others fails as the first one does, or else as the others do. -/
theorem cons_error_iff {first : Except ε α} {wrap : α → β} {others : Except ε (List β)}
    {problem : ε} :
    (first >>= fun value => others >>= fun values => .ok (wrap value :: values)) =
        .error problem ↔
      first = .error problem ∨ (∃ value, first = .ok value) ∧ others = .error problem := by
  -- Putting the results together cannot fail.
  cases first with
  | error problem => simp [bind, Except.bind]
  | ok value => cases others <;> simp [bind, Except.bind]

/-- A computation fails exactly if it does not succeed. -/
theorem exists_error_iff {computed : Except ε α} :
    (∃ problem, computed = .error problem) ↔ ¬∃ result, computed = .ok result := by
  -- A computation has a result or a failure, and never both.
  cases computed with
  | ok result => simp
  | error problem => simp

/-- A computation with a result succeeds with that result. -/
theorem ok_of_toOption {computed : Except ε α} {result : α}
    (found : computed.toOption = some result) : computed = .ok result := by
  -- A failure leaves nothing behind.
  cases computed with
  | error problem => cases found
  | ok value => exact congrArg _ (Option.some.inj found)

/-- There are results for a list exactly if there is one for each of its members. -/
theorem exists_forall₂_iff {related : α → β → Prop} {list : List α} :
    (∃ results, List.Forall₂ related list results) ↔
      ∀ member ∈ list, ∃ result, related member result := by
  -- The induction is on the list; the results are chosen one by one.
  induction list with
  | nil => exact iff_of_true ⟨[], .nil⟩ (by simp)
  | cons member rest ih =>
    rw [List.forall_mem_cons, ← ih]
    simp only [List.forall₂_cons_left_iff]
    constructor
    · rintro ⟨_, result, results, here, later, rfl⟩
      exact ⟨⟨result, here⟩, results, later⟩
    · rintro ⟨⟨result, here⟩, results, later⟩
      exact ⟨_, result, results, here, later, rfl⟩

/-- A list is read entry by entry when each entry can be read. -/
theorem mapM_eq_some_map {read : α → Option β} {result : α → β} {entries : List α}
    (each : ∀ entry ∈ entries, read entry = some (result entry)) :
    entries.mapM read = some (entries.map result) := by
  -- The induction is on the entries, which are read in turn.
  induction entries with
  | nil => rfl
  | cons entry rest ih =>
    obtain ⟨here, later⟩ := List.forall_mem_cons.mp each
    rw [List.mapM_cons, here, ih later]
    rfl

end ServiceCall
