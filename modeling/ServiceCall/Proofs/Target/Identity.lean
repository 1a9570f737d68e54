import ServiceCall.Proofs.Target.Fallbacks
import ServiceCall.Proofs.Target.Remembering

/-!
The name that a guarded client goes by. Its beans are looked up, its faults are reported and its
fallbacks are counted under one name, the resolved name of its target; only the group of its
standard commands goes by the plain name.
-/

namespace ServiceCall

variable {β ω α : Type}

namespace Misconfiguration

/-- The client whose beans a fault is about. -/
def beansOf? : Misconfiguration → Option String
  | .ambiguousBean _ client _ _ | .missingBean _ _ client | .incompatibleBean _ _ _ client =>
    some client
  | _ => none

/-- A fault about the beans of a client says for which client it is. -/
theorem message_of_beansOf? {fault : Misconfiguration} {client : String}
    (about : fault.beansOf? = some client) :
    ∃ front back, fault.message = front ++ " for client " ++ client ++ back := by
  -- Each of the three messages ends with the client, or goes on after it.
  cases fault with
  | ambiguousBean view named first second =>
    obtain rfl := Option.some.inj about
    have text : message (.ambiguousBean view named first second) =
        "Expected a single bean of type " ++ view ++ " for client " ++ named ++ " but found " ++
          first ++ " and " ++ second := rfl
    refine ⟨"Expected a single bean of type " ++ view,
      " but found " ++ first ++ " and " ++ second, ?_⟩
    rw [text]
    simp only [String.append_assoc]
  | missingBean mechanism bean named =>
    obtain rfl := Option.some.inj about
    have text : message (.missingBean mechanism bean named) =
        "No " ++ mechanism.name ++ " instance of type " ++ bean ++ (" found" ++ " for client ") ++
          named := rfl
    refine ⟨"No " ++ mechanism.name ++ " instance of type " ++ bean ++ " found", "", ?_⟩
    rw [text]
    simp only [String.append_assoc, String.append_empty]
  | incompatibleBean mechanism bean view named =>
    obtain rfl := Option.some.inj about
    have text : message (.incompatibleBean mechanism bean view named) =
        "Incompatible " ++ mechanism.name ++ " instance. Fallback/fallbackFactory of type " ++
          bean ++ (" is not assignable to " ++ view ++ " for client " ++ named) := rfl
    refine ⟨"Incompatible " ++ mechanism.name ++ " instance. Fallback/fallbackFactory of type " ++
      bean ++ " is not assignable to " ++ view, "", ?_⟩
    rw [text]
    simp only [String.append_assoc, String.append_empty]
  | _ => cases about

end Misconfiguration

/-- The guarded client that a builder makes of a target, with a setter factory and a fallback. -/
def Builder.guardedWith (builder : Builder ω α) (target : Target) (world : ω)
    (binding : SetterFactory × Fallback ω α) : BoundClient ω α × ω :=
  ({ primary := (builder.factory target world).1
     guard := .guarded target binding.1 binding.2 },
    (builder.factory target world).2)

namespace Targeter

/-- The fallback that a registry holds for a client of some name, if its target asks for one. -/
def promised (registry : Registry (View ω α)) (interface client : String) (spec : FallbackSpec) :
    Except CallError (Fallback ω α) :=
  match spec.bean? with
  | none => .ok .none
  | some (mechanism, type) =>
    match registry.get? client type with
    | none => .error (.configuration (.missingBean mechanism type client))
    | some bean =>
      match bean.fallback? interface mechanism with
      | none => .error (.configuration
          (.incompatibleBean mechanism type (mechanism.viewType interface) client))
      | some fallback => .ok fallback

/-- The setter factory and the fallback that a registry holds for a client of some name; the
builder's own factory serves where the registry has none. -/
def provided (registry : Registry (View ω α)) (interface client : String) (spec : FallbackSpec)
    (own : SetterFactory) : Except CallError (SetterFactory × Fallback ω α) := do
  let found ← registry.find client View.setterFactoryType
  let fallback ← promised registry interface client spec
  .ok ((found.bind View.asSetterFactory?).getD own, fallback)

/-- The fallback of a target is the one promised to its resolved name. -/
theorem fallbackOf_eq_promised (registry : Registry (View ω α)) (interface : String)
    (target : Target) :
    fallbackOf registry interface target =
      promised registry interface target.resolvedName target.fallback := by
  -- The same bean is looked for in both ways.
  rw [fallbackOf_eq]
  simp only [promised, Registry.get?_eq]
  rfl

/-- A guarded client is bound with what is provided for its resolved name. -/
theorem bind_eq_provided (registry : Registry (View ω α)) (interface : String)
    {builder : Builder ω α} {own : SetterFactory} (guarded : builder.kind = .circuitBreaker own)
    (target : Target) (world : ω) :
    bind registry interface builder target world =
      (provided registry interface target.resolvedName target.fallback own).map
        (builder.guardedWith target world) := by
  rw [bind_circuitBreaker registry interface guarded, provided, fallbackOf_eq_promised,
    Registry.find_eq]
  simp only [settersOf]
  -- Two candidates are a fault before the fallback is looked for.
  rcases registry.candidates target.resolvedName View.setterFactoryType with
    _ | ⟨bean, _ | ⟨second, others⟩⟩
  · cases promised registry interface target.resolvedName target.fallback <;> rfl
  · cases promised registry interface target.resolvedName target.fallback <;> rfl
  · rfl

/-- What is provided for a name depends on the beans of this name and on the shared ones alone. -/
theorem provided_congr {registry other : Registry (View ω α)} {client : String}
    (own : other.scope client = registry.scope client) (shared : other.shared = registry.shared)
    (interface : String) (spec : FallbackSpec) (setters : SetterFactory) :
    provided other interface client spec setters =
      provided registry interface client spec setters := by
  -- A lookup goes to the beans of the name and to the shared ones, and nowhere else.
  have found : ∀ type, other.find client type = registry.find client type := by
    intro type
    rw [Registry.find_eq, Registry.find_eq, Registry.candidates, Registry.candidates, own, shared]
  have got : ∀ type, other.get? client type = registry.get? client type := by
    intro type
    rw [Registry.get?_eq, Registry.get?_eq, own, shared]
  simp only [provided, promised, found, got]

/-- A fallback that is promised in vain is a fault about the beans of the name. -/
theorem exists_fault_of_promised {registry : Registry (View ω α)} {interface client : String}
    {spec : FallbackSpec} {error : CallError}
    (failed : promised registry interface client spec = .error error) :
    ∃ fault, error = .configuration fault ∧ fault.beansOf? = some client := by
  unfold promised at failed
  split at failed
  · -- No bean is asked for.
    cases failed
  · split at failed
    · -- The bean is missing.
      exact ⟨_, (Except.error.inj failed).symm, rfl⟩
    · split at failed
      · -- The bean serves no fallback of the mechanism.
        exact ⟨_, (Except.error.inj failed).symm, rfl⟩
      · cases failed

/-- What cannot be provided for a name is a fault about the beans of the name. -/
theorem exists_fault_of_provided {registry : Registry (View ω α)} {interface client : String}
    {spec : FallbackSpec} {own : SetterFactory} {error : CallError}
    (failed : provided registry interface client spec own = .error error) :
    ∃ fault, error = .configuration fault ∧ fault.beansOf? = some client := by
  rcases bind_error_iff.mp failed with unsettled | ⟨found, -, failed⟩
  · -- Two beans compete to be the setter factory.
    rw [Registry.find_eq, Registry.single.eq_def] at unsettled
    split at unsettled
    · cases unsettled
    · cases unsettled
    · exact ⟨_, (Except.error.inj unsettled).symm, rfl⟩
  · -- The setters are settled, and only the fallback can be at fault.
    rcases bind_error_iff.mp failed with vain | ⟨fallback, -, failed⟩
    · exact exists_fault_of_promised vain
    · cases failed

end Targeter

/-- The samples of a failed call: one if there is a fallback, under a client and a command. -/
def Fallback.samples (client command : String) : Fallback ω α → Meter
  | .none => []
  | .fixed _ => [.fallback client command false]
  | .factory _ => [.fallback client command true]

/-- The samples of a failed call are labelled with the client. -/
theorem Fallback.clientLabel_of_samples {client command : String} {fallback : Fallback ω α}
    {sample : Sample} (emitted : sample ∈ fallback.samples client command) :
    sample.series.labels.lookup "client" = some client := by
  -- There is one sample at most, and the client is its first label.
  cases fallback with
  | none => cases emitted
  | fixed implementation =>
    rw [List.mem_singleton.mp emitted]
    rfl
  | factory create =>
    rw [List.mem_singleton.mp emitted]
    rfl

namespace BoundClient

/-- The guarded part of a call leaves no samples. -/
theorem samples_guardedOutcome (client : BoundClient ω α) (breaker : Breaker β)
    (setter : CommandSetter) (method : String) (world : World β ω) :
    (client.guardedOutcome breaker setter method world).2.samples = world.samples := by
  unfold guardedOutcome
  dsimp only
  -- Refused or allowed, a call leaves exchanges with the breaker and nothing in the meter.
  split
  · rfl
  · rfl

/-- A fallback leaves its sample, and nothing else does after a failure. -/
theorem samples_recover (fallback : Fallback ω α) (client command method : String)
    (cause : CallError) (world : World β ω) :
    (recover fallback client command method cause world).2.samples =
      world.samples ++ fallback.samples client command := by
  -- Each kind of fallback is counted by one sample of its own.
  cases fallback with
  | none => exact (List.append_nil _).symm
  | fixed implementation => rfl
  | factory create => rfl

/-- A call leaves the samples of its fallback if it fails, and none if it does not. -/
theorem samples_call {client : BoundClient ω α} {target : Target} {setters : SetterFactory}
    {fallback : Fallback ω α} (guarded : client.guard = .guarded target setters fallback)
    (breaker : Breaker β) (method : String) (world : World β ω) :
    (client.call breaker method world).2.samples = world.samples ++
      match (client.guardedOutcome breaker (setters target method) method world).1 with
      | .ok _ => []
      | .error _ => fallback.samples target.resolvedName (setters target method).command := by
  have before := client.samples_guardedOutcome breaker (setters target method) method world
  cases attempted : client.guardedOutcome breaker (setters target method) method world with
  | mk outcome next =>
    rw [attempted] at before
    rw [call_guarded guarded attempted]
    cases outcome with
    | ok value => exact before.trans (List.append_nil _).symm
    | error cause =>
      -- The fallback counts after whatever the call has left.
      rw [samples_recover, before]

end BoundClient

namespace Target

/-- Two targets that may spell one resolved name in different ways, and ask for the same. -/
structure Alike (target other : Target) : Prop where
  resolvedName : target.resolvedName = other.resolvedName
  interface : target.interface = other.interface
  fallback : target.fallback = other.fallback

/-- The name of a target is its resolved name unless a context id says otherwise. -/
theorem name_eq_resolvedName_iff (target : Target) :
    target.name = target.resolvedName ↔
      ∀ id, target.contextId = some id → id = "" ∨ id = target.name := by
  cases given : target.contextId with
  | none => simp [resolvedName, given]
  | some id =>
    -- An empty context id counts as none.
    by_cases empty : id = ""
    · simp [resolvedName, given, empty]
    · simp [resolvedName, given, empty, eq_comm]

/-- Targets that are alike have the same keys of methods. -/
theorem Alike.methodKey {target other : Target} (alike : target.Alike other) (method : String) :
    target.methodKey method = other.methodKey method := by
  -- A key is made of the interface and the method.
  rw [Target.methodKey, Target.methodKey, alike.interface]

/-- The standard settings of targets that are alike differ in the group at most. -/
theorem Alike.standard {target other : Target} (alike : target.Alike other) (method : String) :
    SetterFactory.standard target method =
      { SetterFactory.standard other method with group := target.name } := by
  -- Of all settings only the group names the target in another way.
  simp only [SetterFactory.standard, alike.methodKey]

/-- Clients of targets that are alike are called alike, for the group concerns no call. -/
theorem Alike.call {target other : Target} (alike : target.Alike other)
    {client rival : BoundClient ω α} {fallback : Fallback ω α}
    (primary : client.primary = rival.primary)
    (guarded : client.guard = .guarded target .standard fallback)
    (also : rival.guard = .guarded other .standard fallback) (breaker : Breaker β)
    (method : String) (world : World β ω) :
    client.call breaker method world = rival.call breaker method world := by
  -- The breaker is asked about the same command, and the same primary is run.
  have outcome : client.guardedOutcome breaker (SetterFactory.standard target method) method world =
      rival.guardedOutcome breaker (SetterFactory.standard other method) method world := by
    rw [alike.standard]
    simp only [BoundClient.guardedOutcome, primary]
  cases attempted : rival.guardedOutcome breaker (SetterFactory.standard other method) method
      world with
  | mk result next =>
    -- The key of a command is that of the interface, which is the same.
    have command : (SetterFactory.standard target method).command =
        (SetterFactory.standard other method).command := alike.methodKey method
    rw [BoundClient.call_guarded guarded (outcome.trans attempted),
      BoundClient.call_guarded also attempted, alike.resolvedName]
    cases result with
    | ok value => rfl
    | error cause =>
      -- A fallback counts under the resolved name and the command.
      dsimp only
      rw [command]

end Target

namespace Targeter

/--
A guarded client goes by the resolved name of its target. It is bound with what its registry
provides for this name, which only depends on the beans of the name and on the shared ones; a fault
is about the beans of this name and says so; and its fallbacks are counted under it. The standard
settings are grouped by the plain name, which is the same unless a context id says otherwise.
Targets that spell the resolved name differently are bound with the same, have settings that differ
in the group only, and are called alike.
-/
theorem bind_under_resolvedName (registry : Registry (View ω α)) (interface : String)
    (factory : Target → ω → Implementation ω α × ω) (target : Target) (world : ω) :
    let builder := Builder.circuitBreaker factory
    let client := target.resolvedName
    bind registry interface builder target world =
      (provided registry interface client target.fallback .standard).map
        (builder.guardedWith target world) ∧
    (∀ other : Registry (View ω α), other.scope client = registry.scope client →
      other.shared = registry.shared →
        bind other interface builder target world = bind registry interface builder target world) ∧
    (∀ error, bind registry interface builder target world = .error error →
      ∃ fault, error = .configuration fault ∧ fault.beansOf? = some client ∧
        ∃ front back, fault.message = front ++ " for client " ++ client ++ back) ∧
    (∀ method, (SetterFactory.standard target method).group = target.name ∧
      ((SetterFactory.standard target method).group = client ↔
        ∀ id, target.contextId = some id → id = "" ∨ id = target.name)) ∧
    (∀ {β : Type} (bound : BoundClient ω α) (fallback : Fallback ω α) (breaker : Breaker β)
      (method : String) (state : World β ω), bound.guard = .guarded target .standard fallback →
        ((bound.call breaker method state).2.samples = state.samples ++
          match (bound.guardedOutcome breaker (SetterFactory.standard target method) method
            state).1 with
          | .ok _ => []
          | .error _ => fallback.samples client (target.methodKey method)) ∧
        ∀ sample ∈ fallback.samples client (target.methodKey method),
          sample.series.labels.lookup "client" = some client) ∧
    ∀ other : Target, other.Alike target →
      bind registry interface builder other world =
        (provided registry interface client target.fallback .standard).map
          (builder.guardedWith other world) ∧
      (∀ method, SetterFactory.standard other method =
        { SetterFactory.standard target method with group := other.name }) ∧
      ∀ {β : Type} (bound rival : BoundClient ω α) (fallback : Fallback ω α) (breaker : Breaker β)
        (method : String) (state : World β ω), bound.primary = rival.primary →
          bound.guard = .guarded other .standard fallback →
            rival.guard = .guarded target .standard fallback →
              bound.call breaker method state = rival.call breaker method state := by
  intro builder client
  have provision : ∀ (registry : Registry (View ω α)) (target : Target),
      bind registry interface builder target world =
        (provided registry interface target.resolvedName target.fallback .standard).map
          (builder.guardedWith target world) :=
    fun registry target => bind_eq_provided registry interface rfl target world
  refine ⟨provision registry target, ?_, ?_, ?_, ?_, ?_⟩
  · -- What is provided does not look at the other beans.
    intro other own shared
    rw [provision other target, provision registry target, provided_congr own shared]
  · -- Only what is provided can be at fault, for the client itself is made without a fault.
    intro error failed
    rw [provision registry target] at failed
    obtain ⟨fault, same, about⟩ := exists_fault_of_provided (map_error_iff.mp failed)
    exact ⟨fault, same, about, Misconfiguration.message_of_beansOf? about⟩
  · -- The group is the plain name, by definition.
    intro method
    exact ⟨rfl, target.name_eq_resolvedName_iff⟩
  · -- The samples of a call are those of its fallback.
    intro β bound fallback breaker method state guarded
    exact ⟨BoundClient.samples_call guarded breaker method state,
      fun sample => Fallback.clientLabel_of_samples⟩
  · intro other alike
    refine ⟨?_, alike.standard, ?_⟩
    · -- Both targets ask for the same under the same name.
      rw [provision registry other, alike.resolvedName, alike.fallback]
    · intro β bound rival fallback breaker method state primary guarded also
      exact alike.call primary guarded also breaker method state

/--
A bean that is missing in the scope of the context id is reported under the context id, which is
also the name that a second target has without one.
-/
theorem bind_under_resolvedName_contextId :
    let registry : Registry (View Unit String) :=
      Registry.register {} (some "items") (.ofType "Cached" (.itself "Cached"))
    let factory : Target → Unit → Implementation Unit String × Unit := fun _ world =>
      (fun _ world => (⟨.zero, .ok "primary"⟩, world), world)
    let target : Target := { Target.ofName "Items" "items" with
      contextId := some "admin", fallback := .fallback "Cached" }
    let other : Target := { Target.ofName "Items" "admin" with fallback := .fallback "Cached" }
    let missing : CallError := .configuration (.missingBean .fixed "Cached" "admin")
    (∃ fault, missing = .configuration fault ∧ fault.beansOf? = some "admin") ∧
      other.Alike target ∧
      bind registry "Items" (.circuitBreaker factory) other () = .error missing := by
  intro registry factory target other missing
  -- The context id of one target is the plain name of the other.
  have alike : other.Alike target := ⟨by decide, by decide, by decide⟩
  have facts := bind_under_resolvedName registry "Items" factory target ()
  have failed : bind registry "Items" (.circuitBreaker factory) target () = .error missing := by
    rw [facts.1]
    rfl
  obtain ⟨fault, same, about, -⟩ := facts.2.2.1 missing failed
  refine ⟨⟨fault, same, about⟩, alike, ?_⟩
  rw [(facts.2.2.2.2.2 other alike).1]
  rfl

/--
The standard group of a target with a context id is that of its plain name, so that two targets with
one resolved name do not have the same settings.
-/
theorem standard_group_of_contextId :
    let target : Target := { Target.ofName "Items" "items" with contextId := some "admin" }
    let other : Target := { Target.ofName "Items" "admin" with url := target.url }
    target.resolvedName = "admin" ∧ (SetterFactory.standard target "list").group = "items" ∧
      other.Alike target ∧
      SetterFactory.standard target "list" ≠ SetterFactory.standard other "list" := by
  -- Both targets resolve to one name, and their groups are told by the other one.
  intro target other
  exact ⟨by decide, by decide, ⟨by decide, by decide, by decide⟩, by decide⟩

end Targeter

end ServiceCall
