import ServiceCall.Config.Load
import ServiceCall.Proofs.Config.References
import ServiceCall.Proofs.Sequencing
import ServiceCall.Proofs.Text.Utf8

/-!
When the references of a configuration cannot be resolved. What is looked up is told by the entries
as they are written, so a value that is put in neither brings in a missing reference nor hides one,
and the first variable without a text is the one that is reported.
-/

namespace ServiceCall

namespace Environment

variable {environment : Environment} {entry : String}

/-- Whether a variable has no text: it does not exist, or its bytes are no text. -/
def Lacks (environment : Environment) (name : String) : Prop :=
  environment name = none ∨ ∃ bytes, environment name = some bytes ∧ ¬Utf8.IsText bytes

/-- Whether an entry refers to variables with a text only. -/
def Resolvable (environment : Environment) (entry : String) : Prop :=
  ∀ pieces, Reads entry.toList pieces → ∀ name ∈ names pieces, ¬environment.Lacks name

/-- Whether a variable without a text is the first one that an entry refers to. -/
def MissesFirst (environment : Environment) (entry name : String) : Prop :=
  ∃ before after, Reads entry.toList (before ++ .reference name :: after) ∧
    environment.Lacks name ∧ ∀ known ∈ names before, ¬environment.Lacks known

/-- The variables without a text are those that give none. -/
theorem get?_eq_none_iff {name : String} :
    environment.get? name = none ↔ environment.Lacks name := by
  unfold get? Lacks
  cases environment name with
  | none => exact iff_of_true rfl (.inl rfl)
  | some bytes =>
    -- Bytes are decoded exactly if they are a text.
    have text : (∃ text, Utf8.decode bytes = .ok text) ↔ Utf8.IsText bytes := by
      rw [Utf8.isText_iff]
      simp only [Utf8.decode_eq_ok_iff]
    simp only [reduceCtorEq, Option.some.injEq, exists_eq_left', false_or, ← text]
    cases Utf8.decode bytes with
    | ok text => simp
    | error fault => simp

/-- Replacing names in turn fails at the first one without a text, whatever the entry has become. -/
theorem substitute_error_iff {order : List String} {name : String} (text : String) :
    environment.substitute order text = .error name ↔
      ∃ before after, order = before ++ name :: after ∧ environment.Lacks name ∧
        ∀ known ∈ before, ¬environment.Lacks known := by
  -- The induction is on the names; a value that is put in changes the text and nothing else.
  induction order generalizing text with
  | nil => simp [substitute]
  | cons first rest ih =>
    rw [substitute]
    cases found : environment.get? first with
    | none =>
      have lacking := get?_eq_none_iff.mp found
      constructor
      · -- Nothing comes before the first name.
        intro failed
        obtain rfl := Except.error.inj failed
        exact ⟨[], rest, rfl, lacking, by simp⟩
      · rintro ⟨before, after, split, missing, others⟩
        cases before with
        | nil => rw [(List.cons.inj split).1]
        | cons known before =>
          -- The first name would be among those that have a text.
          obtain ⟨rfl, -⟩ := List.cons.inj split
          exact absurd lacking (others first List.mem_cons_self)
    | some value =>
      have known : ¬environment.Lacks first := by simp [← get?_eq_none_iff, found]
      refine (ih (replace first value text)).trans ?_
      constructor
      · rintro ⟨before, after, rfl, missing, others⟩
        exact ⟨first :: before, after, rfl, missing, List.forall_mem_cons.mpr ⟨known, others⟩⟩
      · rintro ⟨before, after, split, missing, others⟩
        cases before with
        -- The name that is missing is not the first one, which has a text.
        | nil => exact absurd ((List.cons.inj split).1 ▸ missing) known
        | cons head before =>
          obtain ⟨rfl, rfl⟩ := List.cons.inj split
          exact ⟨before, after, rfl, missing, (List.forall_mem_cons.mp others).2⟩

/-- Where a name stands among the names, its reference stands among the pieces. -/
theorem names_eq_append_iff {pieces : List Piece} {name : String} {early late : List String} :
    names pieces = early ++ name :: late ↔
      ∃ before after, pieces = before ++ .reference name :: after ∧ names before = early ∧
        names after = late := by
  constructor
  · intro split
    obtain ⟨before, others, rfl, rfl, later⟩ := List.filterMap_eq_append_iff.mp split
    -- Between the last name and this one, there are only characters.
    obtain ⟨chars, piece, after, rfl, plain, named, rfl⟩ := List.filterMap_eq_cons_iff.mp later
    cases piece with
    | char c => cases named
    | reference other =>
      obtain rfl := Option.some.inj named
      refine ⟨before ++ chars, after, (List.append_assoc _ _ _).symm, ?_, rfl⟩
      rw [names, List.filterMap_append, List.filterMap_eq_nil_iff.mpr plain, List.append_nil]
  · -- The characters around the reference name nothing.
    rintro ⟨before, after, rfl, rfl, rfl⟩
    exact List.filterMap_append

/-- An entry cannot be resolved exactly if it misses a variable, and the first one is reported. -/
theorem resolve_error_iff {name : String} :
    environment.resolve entry = .error name ↔ environment.MissesFirst entry name := by
  -- The names are looked up in the order in which the entry refers to them.
  obtain ⟨pieces, read⟩ := exists_reads entry.toList
  have referred : references entry = names pieces := referencesFrom_eq read (Nat.le_refl _)
  rw [resolve, referred, substitute_error_iff]
  constructor
  · rintro ⟨early, late, split, missing, others⟩
    obtain ⟨before, after, rfl, rfl, -⟩ := names_eq_append_iff.mp split
    exact ⟨before, after, read, missing, others⟩
  · rintro ⟨before, after, also, missing, others⟩
    -- The entry has one reading only.
    obtain rfl := also.unique read
    exact ⟨names before, names after, names_eq_append_iff.mpr ⟨before, after, rfl, rfl, rfl⟩,
      missing, others⟩

/-- Names have been replaced only if all of them have a text. -/
theorem not_lacks_of_substitute {order : List String} {text result : String}
    (done : environment.substitute order text = .ok result) :
    ∀ name ∈ order, ¬environment.Lacks name := by
  -- The induction is on the names, each of which is looked up before the next one.
  induction order generalizing text with
  | nil => simp
  | cons first rest ih =>
    rw [substitute] at done
    cases found : environment.get? first with
    | none =>
      -- The replacing would have stopped here.
      rw [found] at done
      cases done
    | some value =>
      rw [found] at done
      have known : ¬environment.Lacks first := by simp [← get?_eq_none_iff, found]
      exact List.forall_mem_cons.mpr ⟨known, ih done⟩

/-- An entry can be resolved exactly if all variables that it refers to have a text. -/
theorem exists_resolve_iff :
    (∃ result, environment.resolve entry = .ok result) ↔ environment.Resolvable entry := by
  obtain ⟨pieces, read⟩ := exists_reads entry.toList
  have referred : references entry = names pieces := referencesFrom_eq read (Nat.le_refl _)
  rw [resolve, referred]
  constructor
  · rintro ⟨result, done⟩ other also
    obtain rfl := read.unique also
    exact not_lacks_of_substitute done
  · -- A name with a text is never refused, whatever the entry has become.
    intro resolvable
    refine exists_substitute (fun name among => ?_) entry
    have known := resolvable pieces read name among
    rwa [← get?_eq_none_iff, ← ne_eq, Option.ne_none_iff_exists'] at known

/-- What is written without a reference is kept. -/
theorem resolve_of_unreferenced {pieces : List Piece} (read : Reads entry.toList pieces)
    (plain : names pieces = []) : environment.resolve entry = .ok entry := by
  -- No name is found in the entry, so nothing is replaced.
  have referred : references entry = names pieces := referencesFrom_eq read (Nat.le_refl _)
  rw [resolve, referred, plain, substitute]

/-- Whether a variable without a text is the first one that the entries of a client refer to. -/
structure FirstMissing (environment : Environment) (entries : List String) (index : Nat)
    (name : String) : Prop where
  here : ∃ entry, entries[index]? = some entry ∧ environment.MissesFirst entry name
  earlier : ∀ before < index, ∀ entry, entries[before]? = some entry → environment.Resolvable entry

/-- Whether two environments lack the same of the variables that an entry refers to. -/
def AgreeOn (environment other : Environment) (entry : String) : Prop :=
  ∀ pieces, Reads entry.toList pieces → ∀ name ∈ names pieces,
    (environment.Lacks name ↔ other.Lacks name)

/-- What an entry misses first is told by what is lacking of the variables in it. -/
theorem AgreeOn.missesFirst_iff {other : Environment} (agree : environment.AgreeOn other entry)
    (name : String) : environment.MissesFirst entry name ↔ other.MissesFirst entry name := by
  refine exists₂_congr fun before after => and_congr_right fun read => ?_
  have same := agree _ read
  -- Both the name and those before it are among the names of the entry.
  rw [names_eq_append_iff.mpr ⟨before, after, rfl, rfl, rfl⟩] at same
  refine and_congr (same name (by simp)) (forall₂_congr fun known early => not_congr ?_)
  exact same known (List.mem_append_left _ early)

/-- Whether an entry can be resolved is told by what is lacking of the variables in it. -/
theorem AgreeOn.resolvable_iff {other : Environment} (agree : environment.AgreeOn other entry) :
    environment.Resolvable entry ↔ other.Resolvable entry :=
  forall₂_congr fun pieces read => forall₂_congr fun name among =>
    not_congr (agree pieces read name among)

/-- The first missing variable is told by what is lacking of the variables in the entries. -/
theorem FirstMissing.of_agree {other : Environment} {entries : List String} {index : Nat}
    {name : String} (missing : environment.FirstMissing entries index name)
    (agree : ∀ entry ∈ entries, environment.AgreeOn other entry) :
    other.FirstMissing entries index name := by
  -- The entry and those before it are all among the entries that the two agree on.
  obtain ⟨⟨entry, found, misses⟩, earlier⟩ := missing
  refine ⟨⟨entry, found, ?_⟩, fun before early passed at_place => ?_⟩
  · exact ((agree entry (List.mem_of_getElem? found)).missesFirst_iff name).mp misses
  · exact (agree passed (List.mem_of_getElem? at_place)).resolvable_iff.mp
      (earlier before early passed at_place)

/-- The entries of a client are resolved if all of them are, each in its place. -/
theorem resolveServers_ok_iff {client : String} {start : Nat} {entries results : List String} :
    environment.resolveServers client start entries = .ok results ↔
      List.Forall₂ (fun entry result => environment.resolve entry = .ok result)
        entries results := by
  -- The induction is on the entries, which are resolved one after another.
  induction entries generalizing start results with
  | nil => simp [resolveServers, eq_comm]
  | cons entry rest ih =>
    rw [resolveServers, cons_ok_iff, List.forall₂_cons_left_iff]
    simp only [mapError_ok_iff, ih, exists_eq_right']

/-- The entries of a client fail at the first variable without a text, with its place. -/
theorem resolveServers_error_iff {client : String} {start : Nat} {entries : List String}
    {error : CallError} :
    environment.resolveServers client start entries = .error error ↔
      ∃ index name, environment.FirstMissing entries index name ∧
        error = .configuration (.missingVariable name client (start + index)) := by
  -- The induction is on the entries; the index counts those that have been resolved.
  induction entries generalizing start with
  | nil =>
    -- Without an entry, nothing is missing.
    refine iff_of_false nofun ?_
    rintro ⟨index, name, ⟨⟨entry, found, -⟩, -⟩, -⟩
    cases found
  | cons entry rest ih =>
    rw [resolveServers, cons_error_iff, mapError_error_iff, ih]
    simp only [mapError_ok_iff, resolve_error_iff, exists_resolve_iff]
    constructor
    · rintro (⟨name, misses, rfl⟩ | ⟨resolved, index, name, missing, rfl⟩)
      · exact ⟨0, name, ⟨⟨entry, rfl, misses⟩, by simp⟩, rfl⟩
      · -- The entry itself can be resolved, so the place is one further on.
        refine ⟨index + 1, name, ⟨missing.here, fun before early other found => ?_⟩, ?_⟩
        · cases before with
          | zero =>
            obtain rfl := Option.some.inj found
            exact resolved
          | succ before => exact missing.earlier before (by omega) other found
        · rw [Nat.add_right_comm, Nat.add_assoc]
    · rintro ⟨index, name, ⟨⟨other, found, misses⟩, earlier⟩, rfl⟩
      cases index with
      | zero =>
        obtain rfl := Option.some.inj found
        exact .inl ⟨name, misses, rfl⟩
      | succ index =>
        -- The first entry is one of the earlier ones, all of which can be resolved.
        have resolved : environment.Resolvable entry := earlier 0 (by omega) entry rfl
        refine .inr ⟨resolved, index, name, ⟨⟨other, found, misses⟩, ?_⟩, ?_⟩
        · exact fun before early => earlier (before + 1) (by omega)
        · rw [Nat.add_right_comm, Nat.add_assoc]

/-- The sections of clients are resolved if all of them are, and only their servers change. -/
theorem resolveClients_ok_iff {clients results : List (String × ClientOverrides)} :
    environment.resolveClients clients = .ok results ↔
      List.Forall₂ (fun client result => ∃ servers,
        environment.resolveServers client.1 0 client.2.servers = .ok servers ∧
          result = (client.1, { client.2 with servers })) clients results := by
  -- The induction is on the sections, each of which keeps all but its servers.
  induction clients generalizing results with
  | nil => simp [resolveClients, eq_comm]
  | cons client rest ih =>
    rw [resolveClients, cons_ok_iff, List.forall₂_cons_left_iff]
    simp only [ih]

/-- The sections of clients fail as the first one does that fails. -/
theorem resolveClients_error_iff {clients : List (String × ClientOverrides)} {error : CallError} :
    environment.resolveClients clients = .error error ↔
      ∃ before client after, clients = before ++ client :: after ∧
        environment.resolveServers client.1 0 client.2.servers = .error error ∧
        ∀ other ∈ before, ∃ servers,
          environment.resolveServers other.1 0 other.2.servers = .ok servers := by
  induction clients with
  | nil => simp [resolveClients]
  | cons client rest ih =>
    -- A section fails here, or this one is resolved and a later one fails.
    rw [resolveClients, cons_error_iff, ih]
    constructor
    · rintro (failed | ⟨resolved, before, other, after, rfl, failed, others⟩)
      · exact ⟨[], client, rest, rfl, failed, by simp⟩
      · exact ⟨client :: before, other, after, rfl, failed,
          List.forall_mem_cons.mpr ⟨resolved, others⟩⟩
    · rintro ⟨before, other, after, split, failed, others⟩
      cases before with
      | nil =>
        obtain ⟨rfl, rfl⟩ := List.cons.inj split
        exact .inl failed
      | cons head before =>
        obtain ⟨rfl, rfl⟩ := List.cons.inj split
        obtain ⟨resolved, later⟩ := List.forall_mem_cons.mp others
        exact .inr ⟨resolved, before, other, after, rfl, failed, later⟩

/-- The sections of clients can be resolved exactly if all their entries can be. -/
theorem exists_resolveClients_iff {clients : List (String × ClientOverrides)} :
    (∃ results, environment.resolveClients clients = .ok results) ↔
      ∀ client ∈ clients, ∀ entry ∈ client.2.servers, environment.Resolvable entry := by
  -- Section by section, and entry by entry within each.
  simp only [resolveClients_ok_iff, exists_forall₂_iff]
  refine forall₂_congr fun client _ => ?_
  simp only [← exists_resolve_iff, ← exists_forall₂_iff]
  constructor
  · rintro ⟨_, servers, resolved, -⟩
    exact ⟨servers, resolveServers_ok_iff.mp resolved⟩
  · rintro ⟨servers, resolved⟩
    exact ⟨_, servers, resolveServers_ok_iff.mpr resolved, rfl⟩

end Environment

namespace Config

/-- Whether a check never reports a missing variable. -/
def ChecksValues (check : Except CallError Unit) : Prop :=
  ∀ name client index, check ≠ .error (.configuration (.missingVariable name client index))

/-- Two checks after each other are of the same kind. -/
theorem ChecksValues.bind {first second : Except CallError Unit} (early : ChecksValues first)
    (late : ChecksValues second) : ChecksValues (first >>= fun _ => second) := by
  -- The pair fails as its first check does, or else as its second one.
  intro name client index failed
  rcases bind_error_iff.mp failed with here | ⟨_, -, later⟩
  · exact early name client index here
  · exact late name client index later

/-- A strategy is refused for its name. -/
theorem checksValues_checkStrategy (strategy scope : String) :
    ChecksValues (checkStrategy strategy scope) := by
  -- The one fault of the check is another one.
  intro name client index
  unfold checkStrategy
  split <;> simp

/-- Timeouts are refused for being zero. -/
theorem checksValues_checkTimeouts (timeouts : Timeouts) (scope : String) :
    ChecksValues (checkTimeouts timeouts scope) := by
  -- The faults of both timeouts are others.
  intro name client index
  unfold checkTimeouts
  split <;> simp

/-- Server entries are refused for what stands in them. -/
theorem checksValues_checkServers (scope : String) (start : Nat) (entries : List String) :
    ChecksValues (checkServers scope start entries) := by
  -- The induction is on the entries, of which each fails with a fault of its own.
  intro name client index
  induction entries generalizing start with
  | nil => simp [checkServers]
  | cons entry rest ih =>
    rw [checkServers]
    cases Server.parse entry with
    | ok server => exact ih (start + 1)
    | error problem => simp

/-- A section is refused for its strategy, its timeouts or its servers. -/
theorem checksValues_checkClient (defaults : Defaults) (name : String)
    (overrides : ClientOverrides) : ChecksValues (checkClient defaults name overrides) := by
  -- The timeouts are checked as they are with the defaults, the servers as they are written.
  have rest := (checksValues_checkTimeouts
    (ClientConfig.resolve name defaults overrides).timeouts ("clients." ++ name)).bind
      (checksValues_checkServers ("clients." ++ name) 0 overrides.servers)
  unfold checkClient
  cases overrides.strategy with
  | none => exact rest
  | some strategy => exact (checksValues_checkStrategy strategy _).bind rest

/-- Validation looks at what the configuration has become, and misses no variable. -/
theorem checksValues_validate (config : Config) : ChecksValues config.validate := by
  -- The induction is on the sections, whose checks follow each other.
  have clients : ChecksValues (checkClients config.defaults config.clients) := by
    induction config.clients with
    | nil => exact fun _ _ _ => nofun
    | cons client rest ih => exact (checksValues_checkClient _ client.1 client.2).bind ih
  exact (checksValues_checkStrategy _ _).bind ((checksValues_checkTimeouts _ _).bind clients)

/-- Resolving the references of a configuration fails as it does for its clients. -/
theorem resolveReferences_error_iff {config : Config} {environment : Environment}
    {error : CallError} :
    config.resolveReferences environment = .error error ↔
      environment.resolveClients config.clients = .error error :=
  map_error_iff

open Environment in
/-- With one section at most, the first variable without a text is the only failure there is. -/
theorem resolveReferences_error_iff_firstMissing {config : Config} {environment : Environment}
    (single : config.clients.length ≤ 1) {error : CallError} :
    config.resolveReferences environment = .error error ↔
      ∃ client overrides index name, config.clients = [(client, overrides)] ∧
        environment.FirstMissing overrides.servers index name ∧
        error = .configuration (.missingVariable name client index) := by
  rw [resolveReferences_error_iff, resolveClients_error_iff]
  simp only [resolveServers_error_iff, Nat.zero_add]
  constructor
  · rintro ⟨before, ⟨client, overrides⟩, after, split, ⟨index, name, missing, rfl⟩, -⟩
    -- There is no room for a section before the one that fails, or after it.
    have lengths := congrArg List.length split
    rw [List.length_append, List.length_cons] at lengths
    obtain rfl := List.eq_nil_of_length_eq_zero (show before.length = 0 by omega)
    obtain rfl := List.eq_nil_of_length_eq_zero (show after.length = 0 by omega)
    exact ⟨client, overrides, index, name, split, missing, rfl⟩
  · rintro ⟨client, overrides, index, name, split, missing, rfl⟩
    exact ⟨[], (client, overrides), [], split, ⟨index, name, missing, rfl⟩, by simp⟩

open Environment in
/-- Where two environments agree on all entries, what one reports is reported by the other. -/
theorem resolveReferences_error_of_agree {config : Config} {environment other : Environment}
    (single : config.clients.length ≤ 1)
    (agree : ∀ client ∈ config.clients, ∀ entry ∈ client.2.servers,
      environment.AgreeOn other entry) {error : CallError}
    (failed : config.resolveReferences environment = .error error) :
    config.resolveReferences other = .error error := by
  -- The place is that of an entry on which the two agree.
  obtain ⟨client, overrides, index, name, only, missing, rfl⟩ :=
    (resolveReferences_error_iff_firstMissing single).mp failed
  refine (resolveReferences_error_iff_firstMissing single).mpr
    ⟨client, overrides, index, name, only, missing.of_agree ?_, rfl⟩
  exact agree (client, overrides) (by simp [only])

/-- Reading a text reports a missing variable exactly if resolving its references does. -/
theorem parse_missingVariable_iff {text : String} {config : Config}
    (read : ofToml? text = some config) {environment : Environment} {name client : String}
    {index : Nat} :
    parse environment text = .error (.configuration (.missingVariable name client index)) ↔
      config.resolveReferences environment =
        .error (.configuration (.missingVariable name client index)) := by
  unfold parse
  rw [read]
  refine bind_error_iff.trans (or_iff_left ?_)
  -- What comes after resolving is validation, which reports other faults.
  rintro ⟨resolved, -, failed⟩
  rcases bind_error_iff.mp failed with refused | ⟨_, -, done⟩
  · exact checksValues_validate resolved name client index refused
  · cases done

open Environment in
/--
What is said of the variables that a configuration with one section at most refers to. Its
references cannot be resolved exactly if one of them, as its entry is written, names a variable that
does not exist or has no text; the first one of these is reported, with the place of its entry, when
the text is read. The texts of the other variables have no part in that. Where all references are
resolved, nothing but the servers changes, and of these only entries that hold a reference.
-/
theorem parse_reports_missing {text : String} {config : Config}
    (read : ofToml? text = some config) (single : config.clients.length ≤ 1)
    (environment : Environment) :
    ((∃ error, config.resolveReferences environment = .error error) ↔
      ∃ client ∈ config.clients, ∃ entry ∈ client.2.servers, ∃ pieces,
        Reads entry.toList pieces ∧ ∃ name ∈ names pieces, environment.Lacks name) ∧
    (∀ error, config.resolveReferences environment = .error error ↔
      ∃ client overrides index name, config.clients = [(client, overrides)] ∧
        environment.FirstMissing overrides.servers index name ∧
        error = .configuration (.missingVariable name client index)) ∧
    (∀ name client index,
      parse environment text = .error (.configuration (.missingVariable name client index)) ↔
        config.resolveReferences environment =
          .error (.configuration (.missingVariable name client index))) ∧
    (∀ name client index, (CallError.configuration (.missingVariable name client index)).message =
      "Configuration error: " ++
        (s!"Environment variable '{name}' not found\n  → Set it with: export {name}=\"host:port\"" ++
          s!"\n  → Referenced in clients.{client}.servers[{index}]")) ∧
    (∀ other : Environment,
      (∀ client ∈ config.clients, ∀ entry ∈ client.2.servers, environment.AgreeOn other entry) →
      ∀ error, config.resolveReferences environment = .error error ↔
        config.resolveReferences other = .error error) ∧
    ∀ resolved, config.resolveReferences environment = .ok resolved →
      resolved.defaults = config.defaults ∧ resolved.circuitBreaker = config.circuitBreaker ∧
      List.Forall₂ (fun client result =>
        result = (client.1, { client.2 with servers := result.2.servers }) ∧
        List.Forall₂ (fun entry value => environment.resolve entry = .ok value ∧
            ∀ pieces, Reads entry.toList pieces → names pieces = [] → value = entry)
          client.2.servers result.2.servers) config.clients resolved.clients := by
  refine ⟨?_, fun error => resolveReferences_error_iff_firstMissing single,
    fun name client index => parse_missingVariable_iff read, fun _ _ _ => rfl, ?_, ?_⟩
  · -- That not all entries can be resolved is that one of them refers to what is lacking.
    simp only [resolveReferences_error_iff, exists_error_iff, exists_resolveClients_iff, Resolvable]
    simp only [not_forall, not_not, exists_prop]
  · -- To agree goes both ways, so each reports what the other one does.
    intro other agree error
    refine ⟨resolveReferences_error_of_agree single agree,
      resolveReferences_error_of_agree single fun client member entry listed => ?_⟩
    exact fun pieces written name among =>
      (agree client member entry listed pieces written name among).symm
  · -- Only the servers of each section are rewritten.
    intro resolved done
    obtain ⟨clients, each, rfl⟩ := map_ok_iff.mp done
    refine ⟨rfl, rfl, (resolveClients_ok_iff.mp each).imp ?_⟩
    rintro client _ ⟨servers, values, rfl⟩
    refine ⟨rfl, (resolveServers_ok_iff.mp values).imp fun entry value given => ⟨given, ?_⟩⟩
    -- An entry without a reference is its own value.
    intro pieces written plain
    exact Except.ok.inj (given.symm.trans (resolve_of_unreferenced written plain))

open Environment in
/-- A value with a missing reference in it is put in, and the next variable is no text. -/
theorem parse_reports_missing_bytes :
    let environment : Environment := fun name =>
      if name = "A" then some (Utf8.encode "$\x7bC\x7d".toList)
      else if name = "B" then some [0xFF]
      else none
    let text := "[clients.items]\nservers = [\"a:1\", \"$\x7bA\x7d$\x7bB\x7d\"]"
    let config : Config :=
      { clients := [("items", { servers := ["a:1", "$\x7bA\x7d$\x7bB\x7d"] })] }
    ofToml? text = some config ∧ config.clients.length ≤ 1 ∧
      parse environment text = .error (.configuration (.missingVariable "B" "items" 1)) := by
  intro environment text config
  have read : ofToml? text = some config := by decide +kernel
  have single : config.clients.length ≤ 1 := by decide
  -- The value of the first variable holds a reference itself, and nothing is looked up for it.
  have known : ¬environment.Lacks "A" := by
    rw [← get?_eq_none_iff]
    decide +kernel
  have lacking : environment.Lacks "B" := get?_eq_none_iff.mp (by decide +kernel)
  have written : Reads (reference "A" ++ (reference "B" ++ [])) [.reference "A", .reference "B"] :=
    .reference (by constructor <;> decide) (.reference (by constructor <;> decide) .nil)
  have first : environment.Resolvable "a:1" :=
    exists_resolve_iff.mp ⟨"a:1", ok_of_toOption (by decide +kernel)⟩
  obtain ⟨-, reports, reading, -⟩ := parse_reports_missing read single environment
  refine ⟨read, single, (reading "B" "items" 1).mpr ((reports _).mpr ?_)⟩
  refine ⟨"items", _, 1, "B", rfl, ⟨⟨_, rfl, [.reference "A"], [], written, lacking, ?_⟩, ?_⟩, rfl⟩
  · exact List.forall_mem_singleton.mpr known
  · intro before early entry found
    obtain rfl : before = 0 := by omega
    obtain rfl := Option.some.inj found
    exact first

end Config

end ServiceCall
