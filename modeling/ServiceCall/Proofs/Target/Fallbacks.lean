import ServiceCall.Proofs.Sequencing
import ServiceCall.Proofs.Target.Registrations
import ServiceCall.Target.Targeter

/-!
What a client is bound with. A guarded client takes its setter factory and its fallback from the
registry, and it cannot be bound when the registry does not settle them; a direct client is bound
whatever the registry holds.
-/

namespace ServiceCall

variable {ω α : Type}

/-- The type of the bean a target asks for, and how it is used. -/
def FallbackSpec.bean? : FallbackSpec → Option (FallbackMechanism × String)
  | .none => Option.none
  | .fallback type => some (.fixed, type)
  | .factory type => some (.factory, type)

/-- How a client with such a fallback dispatches its calls. -/
def FallbackSpec.dispatch : FallbackSpec → Dispatch
  | .none => .guarded
  | .fallback _ => .withFallback
  | .factory _ => .withFallbackFactory

/-- The type that a bean must be usable as to serve as a fallback for an interface. -/
def FallbackMechanism.viewType (interface : String) : FallbackMechanism → String
  | .fixed => interface
  | .factory => View.fallbackFactoryType interface

/-- The fallback that a bean is for an interface, if it is usable as one. -/
def Bean.fallback? (interface : String) (bean : Bean (View ω α)) :
    FallbackMechanism → Option (Fallback ω α)
  | .fixed => ((bean.view? interface).bind View.asImplementation?).map .fixed
  | .factory =>
    ((bean.view? (View.fallbackFactoryType interface)).bind View.asFallbackFactory?).map .factory

namespace Targeter

/-- The beans a client sees, its own before the shared ones. -/
def seen (registry : Registry (View ω α)) (target : Target) : List (Bean (View ω α)) :=
  registry.scope target.resolvedName ++ registry.shared

/-- The setter factory of a guarded client: the one in its registry, or else its builder's. -/
def settersOf (registry : Registry (View ω α)) (target : Target) (own : SetterFactory) :
    SetterFactory :=
  match registry.candidates target.resolvedName View.setterFactoryType with
  | [bean] => ((bean.view? View.setterFactoryType).bind View.asSetterFactory?).getD own
  | _ => own

/--
Why a guarded client cannot be bound. The setter factory is looked for first, and a missing or unfit
bean is only met when no two beans compete for it.
-/
inductive Fault (registry : Registry (View ω α)) (interface : String) (target : Target) :
    Misconfiguration → Prop
  /-- Two beans of the first scope that has any are usable as setter factories. -/
  | ambiguous {first second : Bean (View ω α)} {others : List (Bean (View ω α))}
      (several : registry.candidates target.resolvedName View.setterFactoryType =
        first :: second :: others) :
      Fault registry interface target
        (.ambiguousBean View.setterFactoryType target.resolvedName first.type second.type)
  /-- The client sees no bean of the type that its target asks for. -/
  | missing {mechanism : FallbackMechanism} {type : String}
      (clear : (registry.candidates target.resolvedName View.setterFactoryType).length ≤ 1)
      (asked : target.fallback.bean? = some (mechanism, type))
      (absent : ∀ bean ∈ seen registry target, bean.type ≠ type) :
      Fault registry interface target (.missingBean mechanism type target.resolvedName)
  /-- The first bean of the type is no such fallback, whatever a later one may be. -/
  | unfit {mechanism : FallbackMechanism} {type : String} {bean : Bean (View ω α)}
      (clear : (registry.candidates target.resolvedName View.setterFactoryType).length ≤ 1)
      (asked : target.fallback.bean? = some (mechanism, type))
      (first : (seen registry target).find? (·.type = type) = some bean)
      (unusable : bean.fallback? interface mechanism = none) :
      Fault registry interface target
        (.incompatibleBean mechanism type (mechanism.viewType interface) target.resolvedName)

/-- The fallback a guarded client is bound with: none if its target asks for none, or else the one
that the first bean of the type is. -/
inductive Offer (registry : Registry (View ω α)) (interface : String) (target : Target) :
    Fallback ω α → Prop
  | unasked (nothing : target.fallback.bean? = none) : Offer registry interface target .none
  | found {mechanism : FallbackMechanism} {type : String} {bean : Bean (View ω α)}
      {fallback : Fallback ω α}
      (asked : target.fallback.bean? = some (mechanism, type))
      (first : (seen registry target).find? (·.type = type) = some bean)
      (usable : bean.fallback? interface mechanism = some fallback) :
      Offer registry interface target fallback

/-- A bean is required of the first one of its type, and used as what it is cast to. -/
theorem requireView_map {γ : Type} (registry : Registry (View ω α)) (mechanism : FallbackMechanism)
    (target : Target) (type view : String) (cast : View ω α → Option γ) (wrap : γ → Fallback ω α) :
    (requireView registry mechanism target.resolvedName type view cast).map wrap =
      match (seen registry target).find? (·.type = type) with
      | none => .error (.configuration (.missingBean mechanism type target.resolvedName))
      | some bean =>
        match ((bean.view? view).bind cast).map wrap with
        | none =>
          .error (.configuration (.incompatibleBean mechanism type view target.resolvedName))
        | some fallback => .ok fallback := by
  rw [requireView, Registry.get?_eq, ← seen]
  -- A bean is looked for by its type first, and only then asked for the view.
  cases (seen registry target).find? (·.type = type) with
  | none => rfl
  | some bean =>
    dsimp only
    cases (bean.view? view).bind cast <;> rfl

/-- A target's fallback is that of the first bean of the type it asks for. -/
theorem fallbackOf_eq (registry : Registry (View ω α)) (interface : String) (target : Target) :
    fallbackOf registry interface target =
      match target.fallback.bean? with
      | none => .ok .none
      | some (mechanism, type) =>
        match (seen registry target).find? (·.type = type) with
        | none => .error (.configuration (.missingBean mechanism type target.resolvedName))
        | some bean =>
          match bean.fallback? interface mechanism with
          | none => .error (.configuration
              (.incompatibleBean mechanism type (mechanism.viewType interface)
                target.resolvedName))
          | some fallback => .ok fallback := by
  -- Both mechanisms require a bean of a type, and they differ in what they cast it to.
  unfold fallbackOf
  cases target.fallback with
  | none => rfl
  | fallback type => exact requireView_map registry .fixed target type interface _ _
  | factory type => exact requireView_map registry .factory target type _ _ _

/-- A direct client is bound without a look at the registry. -/
theorem bind_plain (registry : Registry (View ω α)) (interface : String) {builder : Builder ω α}
    (plain : builder.kind = .plain) (target : Target) (world : ω) :
    bind registry interface builder target world =
      .ok ({ primary := (builder.factory target world).1, guard := .bare },
        (builder.factory target world).2) := by
  -- A plain builder supports no fallback, so nothing is looked for.
  simp [bind, Builder.supportsFallback, Builder.bind, Builder.bindWith, plain]

/-- A guarded client is bound when no two beans compete for its setter factory and its fallback is
found. -/
theorem bind_circuitBreaker (registry : Registry (View ω α)) (interface : String)
    {builder : Builder ω α} {own : SetterFactory} (guarded : builder.kind = .circuitBreaker own)
    (target : Target) (world : ω) :
    bind registry interface builder target world =
      match registry.candidates target.resolvedName View.setterFactoryType with
      | first :: second :: _ => .error (.configuration
          (.ambiguousBean View.setterFactoryType target.resolvedName first.type second.type))
      | _ => (fallbackOf registry interface target).map fun fallback =>
          ({ primary := (builder.factory target world).1
             guard := .guarded target (settersOf registry target own) fallback },
            (builder.factory target world).2) := by
  simp only [bind, Builder.supportsFallback, guarded, Bool.not_true, Bool.false_eq_true, if_false,
    Registry.find_eq, settersOf]
  match registry.candidates target.resolvedName View.setterFactoryType with
  | [] =>
    -- The builder keeps its own setter factory.
    cases fallbackOf registry interface target with
    | error problem => rfl
    | ok fallback => simp [Registry.single, Builder.bindWith, guarded, Except.map, Bind.bind,
        Except.bind]
  | [bean] =>
    -- The builder takes the setter factory over before it looks for the fallback.
    simp only [Registry.single, Bind.bind, Except.bind]
    cases (bean.view? View.setterFactoryType).bind View.asSetterFactory? <;>
      cases fallbackOf registry interface target <;>
      simp [Builder.bindWith, Builder.withSetters, guarded, Except.map]
  | first :: second :: others => rfl

/-- A guarded client for whose setter factory no two beans compete is bound when its fallback is
found. -/
theorem bind_of_clear {registry : Registry (View ω α)} {interface : String}
    {builder : Builder ω α} {own : SetterFactory} (guarded : builder.kind = .circuitBreaker own)
    {target : Target}
    (clear : (registry.candidates target.resolvedName View.setterFactoryType).length ≤ 1)
    (world : ω) :
    bind registry interface builder target world =
      (fallbackOf registry interface target).map fun fallback =>
        ({ primary := (builder.factory target world).1
           guard := .guarded target (settersOf registry target own) fallback },
          (builder.factory target world).2) := by
  -- There is one candidate or none, and both go on to the fallback.
  rw [bind_circuitBreaker registry interface guarded]
  match registry.candidates target.resolvedName View.setterFactoryType, clear with
  | [], _ => rfl
  | [bean], _ => rfl

/-- No guarded client is bound in the face of a fault, and the fault is what is reported. -/
theorem bind_of_fault {registry : Registry (View ω α)} {interface : String}
    {builder : Builder ω α} {own : SetterFactory} (guarded : builder.kind = .circuitBreaker own)
    {target : Target} {fault : Misconfiguration} (found : Fault registry interface target fault)
    (world : ω) :
    bind registry interface builder target world = .error (.configuration fault) := by
  cases found with
  | ambiguous several => rw [bind_circuitBreaker registry interface guarded, several]
  | @missing _ type clear asked absent =>
    -- No bean that is seen has the type, so the search for the first one fails.
    have unseen : (seen registry target).find? (·.type = type) = none :=
      List.find?_eq_none.mpr fun bean member => by simpa using absent bean member
    rw [bind_of_clear guarded clear, fallbackOf_eq, asked]
    simp only [unseen, Except.map]
  | unfit clear asked first unusable =>
    rw [bind_of_clear guarded clear, fallbackOf_eq, asked]
    simp only [first, unusable, Except.map]

/-- A guarded client is bound with the fallback it is offered unless there is a fault. -/
theorem fault_or_offer (registry : Registry (View ω α)) (interface : String)
    {builder : Builder ω α} {own : SetterFactory} (guarded : builder.kind = .circuitBreaker own)
    (target : Target) (world : ω) :
    (∃ fault, Fault registry interface target fault) ∨
      ∃ fallback, Offer registry interface target fallback ∧
        bind registry interface builder target world = .ok
          ({ primary := (builder.factory target world).1
             guard := .guarded target (settersOf registry target own) fallback },
            (builder.factory target world).2) := by
  by_cases clear : (registry.candidates target.resolvedName View.setterFactoryType).length ≤ 1
  · rw [bind_of_clear guarded clear, fallbackOf_eq]
    match asked : target.fallback.bean? with
    | none => exact .inr ⟨.none, .unasked asked, rfl⟩
    | some (mechanism, type) =>
      -- The first bean of the type decides, whether it is usable or not.
      match first : (seen registry target).find? (·.type = type) with
      | none =>
        refine .inl ⟨_, .missing clear asked fun bean member => ?_⟩
        simpa using List.find?_eq_none.mp first bean member
      | some bean =>
        match usable : bean.fallback? interface mechanism with
        | none => exact .inl ⟨_, .unfit clear asked first usable⟩
        | some fallback =>
          exact .inr ⟨fallback, .found asked first usable, by simp only [first, usable]; rfl⟩
  · -- Two beans compete, and nothing is said about the fallback.
    match several : registry.candidates target.resolvedName View.setterFactoryType with
    | [] => simp [several] at clear
    | [bean] => simp [several] at clear
    | first :: second :: others => exact .inl ⟨_, .ambiguous several⟩

/-- A client is dispatched as the fallback it is offered demands. -/
theorem dispatch_of_offer {registry : Registry (View ω α)} {interface : String} {target : Target}
    {fallback : Fallback ω α} (offer : Offer registry interface target fallback)
    (primary : Implementation ω α) (setters : SetterFactory) :
    BoundClient.dispatch { primary, guard := .guarded target setters fallback } =
      target.fallback.dispatch := by
  cases offer with
  | unasked nothing =>
    cases spec : target.fallback with
    | none => rfl
    | fallback type => simp [spec, FallbackSpec.bean?] at nothing
    | factory type => simp [spec, FallbackSpec.bean?] at nothing
  | found asked first usable =>
    -- A fixed implementation and a maker of one come from the mechanism that the target names.
    cases spec : target.fallback with
    | none => simp [spec, FallbackSpec.bean?] at asked
    | fallback type =>
      obtain ⟨rfl, rfl⟩ : FallbackMechanism.fixed = _ ∧ type = _ := by
        simpa [spec, FallbackSpec.bean?] using asked
      obtain ⟨run, -, rfl⟩ := Option.map_eq_some_iff.mp usable
      rfl
    | factory type =>
      obtain ⟨rfl, rfl⟩ : FallbackMechanism.factory = _ ∧ type = _ := by
        simpa [spec, FallbackSpec.bean?] using asked
      obtain ⟨create, -, rfl⟩ := Option.map_eq_some_iff.mp usable
      rfl

/--
What a client is bound with, or why it is not bound. A direct client is bound whatever the registry
holds. A guarded client fails exactly at a fault of its registry, whatever its factory does;
otherwise it is bound with the fallback and the setter factory that the registry offers.
-/
theorem bind_outcome (registry : Registry (View ω α)) (interface : String)
    (builder : Builder ω α) (target : Target) (world : ω) :
    let (primary, next) := builder.factory target world
    match builder.kind with
    | .plain =>
      bind registry interface builder target world = .ok ({ primary, guard := .bare }, next) ∧
        BoundClient.dispatch { primary, guard := .bare } = .direct
    | .circuitBreaker own =>
      (∀ error, bind registry interface builder target world = .error error ↔
        ∃ fault, Fault registry interface target fault ∧ error = .configuration fault) ∧
      ((¬ ∃ fault, Fault registry interface target fault) →
        ∃ client fallback, bind registry interface builder target world = .ok (client, next) ∧
          client = { primary, guard := .guarded target (settersOf registry target own) fallback } ∧
          Offer registry interface target fallback ∧
          client.dispatch = target.fallback.dispatch) := by
  match kind : builder.kind with
  | .plain => exact ⟨bind_plain registry interface kind target world, rfl⟩
  | .circuitBreaker own =>
    refine ⟨fun error => ⟨fun failed => ?_, ?_⟩, fun flawless => ?_⟩
    · -- Where there is a fault, it is the one that was reported.
      rcases fault_or_offer registry interface kind target world with
        ⟨fault, found⟩ | ⟨fallback, -, bound⟩
      · rw [bind_of_fault kind found] at failed
        exact ⟨fault, found, (Except.error.inj failed).symm⟩
      · -- A client that is bound with an offer does not fail.
        rw [bound] at failed
        nomatch failed
    · rintro ⟨fault, found, rfl⟩
      exact bind_of_fault kind found world
    · -- Without a fault, only the offer is left.
      obtain ⟨fallback, offer, bound⟩ :=
        (fault_or_offer registry interface kind target world).resolve_left flawless
      exact ⟨_, fallback, bound, rfl, offer, dispatch_of_offer offer _ _⟩

end Targeter

end ServiceCall
