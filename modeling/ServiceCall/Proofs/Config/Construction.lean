import ServiceCall.Call.Executor
import ServiceCall.Config.Load
import ServiceCall.Proofs.Sequencing

/-!
A configuration that was read can be put to use. Validation looks at the defaults and at what each
client overrides, and construction at what a client ends up with; a client without a section is
never looked at before it is built. Here both are measured by the same condition.
-/

namespace ServiceCall

/-- What the settings of a client must satisfy. -/
structure ClientConfig.Sound (config : ClientConfig) : Prop where
  strategy : Strategy.isName config.strategy = true
  connect : config.connectTimeoutMillis ≠ 0
  read : config.readTimeoutMillis ≠ 0
  servers : ∀ entry ∈ config.servers, ∃ server, Server.parse entry = .ok server

namespace Config

/-- A strategy is accepted exactly when its name is known. -/
theorem checkStrategy_ok_iff {strategy scope : String} :
    checkStrategy strategy scope = .ok () ↔ Strategy.isName strategy = true := by
  -- The check is one test, and its failure names the scope.
  unfold checkStrategy
  split
  · rename_i known
    exact iff_of_true rfl known
  · rename_i unknown
    exact iff_of_false (by simp) unknown

/-- Timeouts are accepted exactly when neither is zero. -/
theorem checkTimeouts_ok_iff {timeouts : Timeouts} {scope : String} :
    checkTimeouts timeouts scope = .ok () ↔
      timeouts.connectMillis ≠ 0 ∧ timeouts.readMillis ≠ 0 := by
  -- The test is for a zero in one of the two.
  unfold checkTimeouts
  split
  · rename_i zero
    exact iff_of_false (by simp) (not_and_or.mpr (zero.imp not_not_intro not_not_intro))
  · rename_i positive
    exact iff_of_true rfl (not_or.mp positive)

/-- Server entries are accepted exactly when each of them is a server. -/
theorem checkServers_ok_iff {scope : String} {index : Nat} {entries : List String} :
    checkServers scope index entries = .ok () ↔
      ∀ entry ∈ entries, ∃ server, Server.parse entry = .ok server := by
  -- The induction is on the entries, which are checked in turn.
  induction entries generalizing index with
  | nil => simp [checkServers]
  | cons entry rest ih =>
    rw [List.forall_mem_cons, checkServers]
    -- The entry is read, and its server is dropped again.
    cases parsed : Server.parse entry with
    | ok server => simpa using ih
    | error problem => simp

/-- What a section must satisfy so that its client is sound. -/
theorem resolve_sound_iff {name : String} {defaults : Defaults} {overrides : ClientOverrides} :
    (ClientConfig.resolve name defaults overrides).Sound ↔
      Strategy.isName (overrides.strategy.getD defaults.strategy) = true ∧
        (overrides.connectTimeoutMillis.getD defaults.connectTimeoutMillis ≠ 0 ∧
          overrides.readTimeoutMillis.getD defaults.readTimeoutMillis ≠ 0) ∧
        ∀ entry ∈ overrides.servers, ∃ server, Server.parse entry = .ok server := by
  -- What a client ends up with is what its section sets, or else what the defaults do.
  constructor
  · rintro ⟨strategy, connect, read, servers⟩
    exact ⟨strategy, ⟨connect, read⟩, servers⟩
  · rintro ⟨strategy, ⟨connect, read⟩, servers⟩
    exact ⟨strategy, connect, read, servers⟩

/-- Over a known default strategy, a section is accepted exactly when its client is sound. -/
theorem checkClient_ok_iff {defaults : Defaults} {name : String} {overrides : ClientOverrides}
    (known : Strategy.isName defaults.strategy = true) :
    checkClient defaults name overrides = .ok () ↔
      (ClientConfig.resolve name defaults overrides).Sound := by
  rw [resolve_sound_iff, ← checkServers_ok_iff]
  unfold checkClient
  -- A section that names no strategy is not asked for one; it takes that of the defaults.
  cases overrides.strategy with
  | none =>
    show (checkTimeouts _ _ >>= fun _ => checkServers _ _ _) = .ok () ↔ _
    rw [check_ok_iff, checkTimeouts_ok_iff]
    exact (and_iff_right known).symm
  | some strategy =>
    show (checkStrategy _ _ >>= fun _ => checkTimeouts _ _ >>= fun _ => checkServers _ _ _) =
      .ok () ↔ _
    -- The three checks are made in the order of the conditions.
    rw [check_ok_iff, check_ok_iff, checkStrategy_ok_iff, checkTimeouts_ok_iff]
    rfl

/-- Over a known default strategy, sections are accepted exactly when all clients are sound. -/
theorem checkClients_ok_iff {defaults : Defaults} {clients : List (String × ClientOverrides)}
    (known : Strategy.isName defaults.strategy = true) :
    checkClients defaults clients = .ok () ↔
      ∀ client ∈ clients, (ClientConfig.resolve client.1 defaults client.2).Sound := by
  -- The induction is on the sections, which are checked one after another.
  induction clients with
  | nil => simp [checkClients]
  | cons client rest ih =>
    rw [checkClients, check_ok_iff, checkClient_ok_iff known, ih, List.forall_mem_cons]

/-- A configuration is valid exactly when its defaults and all its sections make sound clients. -/
theorem validate_ok_iff {config : Config} (name : String) :
    config.validate = .ok () ↔
      (ClientConfig.resolve name config.defaults {}).Sound ∧
        ∀ client ∈ config.clients,
          (ClientConfig.resolve client.1 config.defaults client.2).Sound := by
  -- A client without a section has no servers, so only the defaults are judged.
  have unlisted : (ClientConfig.resolve name config.defaults {}).Sound ↔
      Strategy.isName config.defaults.strategy = true ∧
        config.defaults.connectTimeoutMillis ≠ 0 ∧ config.defaults.readTimeoutMillis ≠ 0 := by
    simp [resolve_sound_iff]
  rw [validate, check_ok_iff, check_ok_iff, checkStrategy_ok_iff, checkTimeouts_ok_iff,
    unlisted]
  -- The sections are only judged once the strategy of the defaults is known.
  refine (and_congr_right fun known => ?_).trans and_assoc.symm
  rw [checkClients_ok_iff known]

/-- In a valid configuration every client is sound, whether or not it has a section. -/
theorem client_sound {config : Config} (valid : config.validate = .ok ()) (name : String) :
    (config.client name).Sound := by
  obtain ⟨unlisted, listed⟩ := (validate_ok_iff name).mp valid
  unfold client
  cases found : config.clients.lookup name with
  | none => exact unlisted
  | some overrides =>
    -- The section that is found by the name is one of those that were checked.
    obtain ⟨before, after, split, -⟩ := List.lookup_eq_some_iff.mp found
    exact listed (name, overrides) (by simp [split])

/-- A configuration that was read is valid. -/
theorem validate_of_parse {environment : Environment} {text : String} {config : Config}
    (parsed : parse environment text = .ok config) : config.validate = .ok () := by
  -- Whatever is read is validated last, and then returned as it is.
  unfold parse at parsed
  split at parsed
  · cases parsed
  · obtain ⟨resolved, _, checked⟩ := bind_ok_iff.mp parsed
    obtain ⟨valid, same⟩ := check_ok_iff.mp checked
    obtain rfl := Except.ok.inj same
    exact valid

end Config

/-- A strategy can be built exactly when its name is known. -/
theorem Strategy.isName_iff (draws : Nat → Nat) (name : String) :
    isName name = true ↔ ∃ strategy, ofName draws name = .ok strategy := by
  -- The name is looked up among the same two, without regard to case.
  unfold isName ofName
  by_cases rotating : Text.lowercase name = "round_robin"
  · simp [rotating]
  · by_cases drawing : Text.lowercase name = "random"
    · simp [drawing]
    · simp [rotating, drawing]

namespace Pool

/-- Entries are read exactly when each of them is, and to the servers that they are read to. -/
theorem parseServers_ok_iff {client : String} {entries : List String} {servers : List Server} :
    parseServers client entries = .ok servers ↔
      List.Forall₂ (fun entry server => Server.parse entry = .ok server) entries servers := by
  -- The induction is on the entries, of which one that is no server stops the reading.
  induction entries generalizing servers with
  | nil => simp [parseServers, eq_comm]
  | cons entry rest ih =>
    rw [parseServers, cons_ok_iff, List.forall₂_cons_left_iff]
    simp only [mapError_ok_iff, ih, exists_eq_right']

/-- The pool of a sound client has a live entry for each of its servers, in their order. -/
theorem ofConfig_of_sound {config : ClientConfig} (sound : config.Sound) (draws : Nat → Nat) :
    ∃ pool, ofConfig draws config = .ok pool ∧
      List.Forall₂ (fun entry tracker => Server.parse entry = .ok tracker.server ∧
        tracker.alive = true) config.servers pool.trackers ∧
      Strategy.ofName draws config.strategy = .ok pool.strategy := by
  -- Both things that construction can refuse are part of being sound.
  obtain ⟨strategy, named⟩ := (Strategy.isName_iff draws config.strategy).mp sound.strategy
  obtain ⟨servers, read⟩ := exists_forall₂_iff.mpr sound.servers
  refine ⟨ofServers config.clientName servers strategy, ?_, ?_, named⟩
  · rw [ofConfig, parseServers_ok_iff.mpr read, named]
    rfl
  · exact List.forall₂_map_right_iff.mpr (read.imp fun _ _ parsed => ⟨parsed, rfl⟩)

end Pool

/--
A client of a configuration that was read can be built, whether or not it has a section of its own.
It starts with one live entry for each of its servers, under its strategy and with its timeouts.
-/
theorem Config.parse_constructs {environment : Environment} {text : String} {config : Config}
    (parsed : Config.parse environment text = .ok config) (name : String) (draws : Nat → Nat)
    {τ : Type} (transport : Transport τ) :
    let client := config.client name
    ∃ executor pool, Executor.ofConfig draws client transport = .ok (executor, pool) ∧
      executor.config = client ∧ executor.balancer = Pool.balancer ∧
      List.Forall₂ (fun entry tracker => Server.parse entry = .ok tracker.server ∧
        tracker.alive = true) client.servers pool.trackers ∧
      Strategy.ofName draws client.strategy = .ok pool.strategy ∧
      (executor.effectiveTimeouts none).connectMillis ≠ 0 ∧
      (executor.effectiveTimeouts none).readMillis ≠ 0 := by
  -- Validation has shown every client to be sound, and no more is asked of one.
  intro client
  have sound : client.Sound := client_sound (validate_of_parse parsed) name
  obtain ⟨pool, built, entries, strategy⟩ := Pool.ofConfig_of_sound sound draws
  let executor : Executor Pool τ :=
    { config := client, introspector := .ofConfig client, balancer := Pool.balancer, transport }
  have constructed : Executor.ofConfig draws client transport = .ok (executor, pool) := by
    rw [Executor.ofConfig, built]
    rfl
  exact ⟨executor, pool, constructed, rfl, rfl, entries, strategy, sound.connect, sound.read⟩

/-- A reference and a strategy in capitals are read, and the client is built of what they become. -/
theorem Config.parse_constructs_reference :
    let environment : Environment := fun name => if name = "HOST" then some [97, 58, 49] else none
    let text :=
      "[clients.items]\nstrategy = \"RANDOM\"\nservers = [\"$\x7bHOST\x7d\", \"b\"]"
    let config : Config :=
      { clients := [("items", { strategy := some "RANDOM", servers := ["a:1", "b"] })] }
    let transport : Transport Unit := fun _ _ state =>
      ({ took := .zero, outcome := .error (.noServer "items") }, state)
    Config.parse environment text = .ok config ∧
      ∃ executor pool, Executor.ofConfig id (config.client "items") transport =
          .ok (executor, pool) ∧
        pool.trackers.length = 2 ∧ (executor.effectiveTimeouts none).readMillis ≠ 0 := by
  -- The text is read by evaluation, and the law builds the client.
  intro environment text config transport
  have read : (Config.parse environment text).toOption = some config := by decide +kernel
  have parsed : Config.parse environment text = .ok config := by
    cases result : Config.parse environment text with
    | error problem => simp [result, Except.toOption] at read
    | ok value =>
      rw [result] at read
      exact congrArg _ (Option.some.inj read)
  obtain ⟨executor, pool, built, -, -, entries, -, -, positive⟩ :=
    Config.parse_constructs parsed "items" id transport
  exact ⟨parsed, executor, pool, built, entries.length_eq.symm, positive⟩

end ServiceCall
