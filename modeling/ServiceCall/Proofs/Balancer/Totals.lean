import ServiceCall.Balancer.Pool

/-!
Changes to the first entry of a server, and totals over all entries of a server. A list of servers
may name one more than once, and only the total then tells what is known of it.
-/

namespace ServiceCall

namespace Pool

/-- What the entries of a server count together. -/
def total (count : Tracker → Nat) (server : Server) : List Tracker → Nat
  | [] => 0
  | tracker :: rest =>
    if tracker.server = server then count tracker + total count server rest
    else total count server rest

variable {server : Server} {change : Tracker → Tracker}

/-- Two changes to the same server meet the same entry. -/
theorem updateFirst_updateFirst (server : Server) (first second : Tracker → Tracker)
    (kept : ∀ tracker, (first tracker).server = tracker.server) (trackers : List Tracker) :
    updateFirst server second (updateFirst server first trackers) =
      updateFirst server (fun tracker => second (first tracker)) trackers := by
  -- The first change does not hide its entry from the second one.
  induction trackers with
  | nil => rfl
  | cons tracker rest ih =>
    by_cases here : tracker.server = server
    · simp [updateFirst, here, kept]
    · simp [updateFirst, here, ih]

/-- A change that does nothing to an entry does nothing to a list of them. -/
theorem updateFirst_of_idle (idle : ∀ tracker, change tracker = tracker)
    (trackers : List Tracker) : updateFirst server change trackers = trackers := by
  -- Both the entry that is found and the ones that are passed stay the same.
  induction trackers with
  | nil => rfl
  | cons tracker rest ih => simp [updateFirst, idle, ih]

/-- What a change keeps of one entry, it keeps of every entry in its place. -/
theorem map_updateFirst {α : Type} (field : Tracker → α)
    (kept : ∀ tracker, field (change tracker) = field tracker) (trackers : List Tracker) :
    (updateFirst server change trackers).map field = trackers.map field := by
  -- The search passes an entry or changes it, and the field does not tell which.
  induction trackers with
  | nil => rfl
  | cons tracker rest ih =>
    by_cases here : tracker.server = server
    · simp [updateFirst, here, kept]
    · simp [updateFirst, here, ih]

/-- The entries of other servers stay as they are. -/
theorem getElem?_updateFirst_of_ne {trackers : List Tracker} {i : Nat} {tracker : Tracker}
    (found : trackers[i]? = some tracker) (other : tracker.server ≠ server) :
    (updateFirst server change trackers)[i]? = some tracker := by
  -- The search stops at an entry of the server, or goes on to the same place of the rest.
  induction trackers generalizing i with
  | nil => simp at found
  | cons head rest ih =>
    by_cases here : head.server = server
    · cases i with
      | zero =>
        -- The entry that changes is not the one that was found.
        obtain rfl := Option.some.inj found
        exact absurd here other
      | succ i => simpa [updateFirst, here] using found
    · cases i with
      | zero => simpa [updateFirst, here] using found
      | succ i =>
        simp only [updateFirst, here, if_false, List.getElem?_cons_succ] at found ⊢
        exact ih found

/-- A change that adds to one entry of a known server adds as much to the total of that server. -/
theorem total_updateFirst {count : Tracker → Nat} {amount : Nat}
    (kept : ∀ tracker, (change tracker).server = tracker.server)
    (grows : ∀ tracker, count (change tracker) = count tracker + amount)
    {trackers : List Tracker} (known : server ∈ trackers.map (·.server)) (asked : Server) :
    total count asked (updateFirst server change trackers) =
      total count asked trackers + if server = asked then amount else 0 := by
  -- Exactly one entry changes, namely the first one of the server.
  induction trackers with
  | nil => simp at known
  | cons tracker rest ih =>
    by_cases here : tracker.server = server
    · -- The amount is added at the head, whose server is the same as before.
      subst here
      simp only [updateFirst, if_true, total, kept]
      split
      · rw [grows]
        omega
      · omega
    · -- The head is passed, so the server is known further on.
      have later : server ∈ rest.map (·.server) := by
        rcases List.mem_cons.mp known with same | later
        · exact absurd same.symm here
        · exact later
      simp only [updateFirst, here, if_false, total, ih later]
      split <;> omega

/-- A choice names a server of the pool and changes nothing that the pool knows of its servers. -/
theorem choose_spec {pool next : Pool} {answer : Option Server}
    (chosen : pool.choose = (answer, next)) :
    next.trackers = pool.trackers ∧ ∀ server ∈ answer, server ∈ pool.trackers.map (·.server) := by
  -- The candidates are the live ones among the servers of the pool.
  unfold choose at chosen
  split at chosen
  · rename_i index strategy picked
    obtain ⟨rfl, rfl⟩ := Prod.mk.inj chosen
    refine ⟨rfl, fun server offered => ?_⟩
    have candidate : server ∈ pool.reachable := List.mem_of_getElem? offered
    obtain ⟨tracker, live, rfl⟩ := List.mem_map.mp candidate
    exact List.mem_map_of_mem (List.mem_filter.mp live).1
  · obtain ⟨rfl, rfl⟩ := Prod.mk.inj chosen
    exact ⟨rfl, fun server offered => by cases offered⟩

end Pool

end ServiceCall
