import ServiceCall.Call.Executor
import ServiceCall.Proofs.Server.Entry

/-!
Servers told apart by the text that identifies them. The text is cut at its last colon into the host
as it is shown and the port, so that two servers share it only if they share their address; the rows
of statistics and the series of samples are told apart as well as the servers they are about.
-/

namespace ServiceCall

namespace Server

/-- Two servers have the same address, whatever zones and facts they publish. -/
def SameAddress (a b : Server) : Prop :=
  a.host = b.host ∧ a.port = b.port

/-- The identity of a server is the host as it is shown, a colon, and the port. -/
theorem toList_hostPort (server : Server) :
    server.hostPort.toList =
      (bracketedHost server.host).toList ++ ':' :: (toString server.port.toNat).toList := by
  -- The parts are put together as texts.
  simp [hostPort, String.toList_append]

/-- The identity of a server is cut between the host and the port, whatever the host holds. -/
theorem splitLast?_hostPort (server : Server) :
    Text.splitLast? ':' server.hostPort.toList =
      some ((bracketedHost server.host).toList, (toString server.port.toNat).toList) := by
  -- The digits of the port hold no colon, so the one before them is the last.
  have digits : ':' ∉ (toString server.port.toNat).toList :=
    (writesPort_toString server.port).plain.1
  rw [toList_hostPort]
  exact Text.splitLast?_append _ digits

/-- A port is determined by its text. -/
theorem port_eq_of_toList {a b : UInt16}
    (same : (toString a.toNat).toList = (toString b.toNat).toList) : a = b := by
  -- The text is read as one port, and both ports are written by it.
  have first : parsePort (toString a.toNat).toList = .ok a :=
    parsePort_eq_ok_iff.mpr (writesPort_toString a)
  have second : parsePort (toString a.toNat).toList = .ok b := by
    rw [same]
    exact parsePort_eq_ok_iff.mpr (writesPort_toString b)
  exact Except.ok.inj (first.symm.trans second)

/-- A host is shown in brackets exactly if it has a colon. -/
theorem toList_bracketedHost (host : String) :
    (bracketedHost host).toList =
      if ':' ∈ host.toList then '[' :: (host.toList ++ [']']) else host.toList := by
  -- The host is searched for a colon, and nothing else of it matters.
  by_cases colon : ':' ∈ host.toList
  · simp [bracketedHost, colon, String.toList_append]
  · simp [bracketedHost, colon]

/-- The brackets around a host neither add a colon nor take one away. -/
theorem colon_mem_bracketedHost (host : String) :
    ':' ∈ (bracketedHost host).toList ↔ ':' ∈ host.toList := by
  -- Neither of the brackets is a colon.
  rw [toList_bracketedHost]
  by_cases colon : ':' ∈ host.toList
  · simp [colon]
  · simp [colon]

/-- A host is determined by how it is shown, even if it holds brackets of its own. -/
theorem bracketedHost_injective {a b : String} (same : bracketedHost a = bracketedHost b) :
    a = b := by
  -- Both hosts have a colon or neither has one, so both are in brackets or neither is.
  have both : ':' ∈ a.toList ↔ ':' ∈ b.toList := by
    rw [← colon_mem_bracketedHost a, same, colon_mem_bracketedHost b]
  have shown := congrArg String.toList same
  rw [toList_bracketedHost, toList_bracketedHost] at shown
  apply String.toList_injective
  by_cases colon : ':' ∈ a.toList
  · have other : ':' ∈ b.toList := both.mp colon
    simpa [colon, other] using shown
  · have other : ':' ∉ b.toList := fun found => colon (both.mpr found)
    simpa [colon, other] using shown

/-- Two servers have the same identity exactly if they have the same address. -/
theorem hostPort_eq_iff (a b : Server) : a.hostPort = b.hostPort ↔ a.SameAddress b := by
  constructor
  · intro same
    -- Equal texts are cut at the same colon.
    have cut := splitLast?_hostPort a
    rw [same, splitLast?_hostPort b, Option.some.injEq, Prod.mk.injEq] at cut
    obtain ⟨hosts, ports⟩ := cut
    have host : b.host = a.host := bracketedHost_injective (String.toList_injective hosts)
    have port : b.port = a.port := port_eq_of_toList ports
    exact ⟨host.symm, port.symm⟩
  · -- Nothing but the host and the port is shown.
    rintro ⟨host, port⟩
    rw [hostPort, hostPort, host, port]

end Server

/-- A row of statistics is named by the identity of its server. -/
theorem Tracker.server_of_stats {tracker : Tracker} {row : ServerStats}
    (taken : tracker.stats = .ok row) : row.server = tracker.server.hostPort := by
  unfold Tracker.stats at taken
  -- There is a row only if there is an average.
  cases average : tracker.averageTime with
  | error overflow => simp [average, bind, Except.bind] at taken
  | ok time =>
    simp only [average, bind, Except.bind, Except.ok.injEq] at taken
    rw [← taken]

/-- Every sample of an attempt is labelled with the identity of its server. -/
theorem Executor.serverLabel_of_samples {σ τ : Type} (executor : Executor σ τ) (server : Server)
    (fate : Fate) {sample : Sample} (emitted : sample ∈ executor.samples server fate) :
    sample.series.labels.lookup "server" = some server.hostPort := by
  -- An attempt that was not sent, or was abandoned, has no samples to speak of.
  cases fate with
  | unbound error => simp [samples] at emitted
  | abandoned elapsed => simp [samples] at emitted
  | answered response elapsed =>
    simp only [samples, Meter.ofAnswer, List.mem_cons, List.not_mem_nil, or_false] at emitted
    rcases emitted with rfl | rfl <;> rfl
  | failed error elapsed =>
    simp only [samples, Meter.ofFailure, List.mem_cons, List.not_mem_nil, or_false] at emitted
    rcases emitted with rfl | rfl | rfl <;> rfl

/--
The identity of a server stands for its address. It is the same for two servers exactly if their
hosts and ports are; so are the names of two rows of statistics, and the server labels of the
samples that any two clients emit, which share a series only if the address is the same.
-/
theorem Server.hostPort_identifies (a b : Server) :
    (a.hostPort = b.hostPort ↔ a.SameAddress b) ∧
    (∀ (first second : Tracker) (row other : ServerStats), first.server = a → second.server = b →
      first.stats = .ok row → second.stats = .ok other →
        (row.server = other.server ↔ a.SameAddress b)) ∧
    ∀ {σ τ σ' τ' : Type} (one : Executor σ τ) (another : Executor σ' τ') (fate fate' : Fate),
      ∀ sample ∈ one.samples a fate, ∀ sample' ∈ another.samples b fate',
        (sample.series.labels.lookup "server" = sample'.series.labels.lookup "server" ↔
          a.SameAddress b) ∧
        (sample.series = sample'.series → a.SameAddress b) := by
  refine ⟨a.hostPort_eq_iff b, ?_, ?_⟩
  · -- A row is taken of the server that its tracker is about.
    rintro first second row other rfl rfl taken also
    rw [Tracker.server_of_stats taken, Tracker.server_of_stats also]
    exact Server.hostPort_eq_iff _ _
  · -- The label is the identity of the server, whatever the client and the fate are.
    intro σ τ σ' τ' one another fate fate' sample emitted sample' also
    have label := one.serverLabel_of_samples a fate emitted
    have label' := another.serverLabel_of_samples b fate' also
    have labels : sample.series.labels.lookup "server" = sample'.series.labels.lookup "server" ↔
        a.SameAddress b := by
      rw [label, label', Option.some.injEq]
      exact a.hostPort_eq_iff b
    refine ⟨labels, ?_⟩
    intro series
    -- Samples of one series have all labels in common.
    exact labels.mp (by rw [series])

/-- Brackets that belong to a host are shown inside those that enclose it. -/
theorem Server.hostPort_identifies_brackets :
    let plain : Server := { host := "a:1", port := 80 }
    let bracketed : Server := { host := "[a:1]", port := 80 }
    plain.hostPort = "[a:1]:80" ∧ bracketed.hostPort = "[[a:1]]:80" ∧
      ∃ row other, (Tracker.ofServer plain).stats = .ok row ∧
        (Tracker.ofServer bracketed).stats = .ok other ∧ row.server ≠ other.server := by
  intro plain bracketed
  -- The two hosts differ, and the rows take their names from them.
  have apart : ¬ plain.SameAddress bracketed := by
    intro same
    exact absurd same.1 (by decide)
  refine ⟨by decide, by decide, _, _, rfl, rfl, ?_⟩
  intro same
  have rows := (hostPort_identifies plain bracketed).2.1 (.ofServer plain) (.ofServer bracketed)
  exact apart ((rows _ _ rfl rfl rfl rfl).mp same)

end ServiceCall
