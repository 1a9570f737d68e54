import ServiceCall.Target.Builder
import ServiceCall.Target.Registry

/-!
Binding a client once, at its construction. A builder that supports fallbacks takes its setter
factory and its fallback from the registry; a plain one binds directly and never looks there.
-/

namespace ServiceCall

/-- What a bean can be used as. -/
inductive View (ω α : Type) where
  | implementation (run : Implementation ω α)
  | fallbackFactory (create : CallError → Implementation ω α)
  | setterFactory (setters : SetterFactory)
  | itself (label : String)

namespace View

variable {ω α : Type}

/-- The view as an implementation of the interface. -/
def asImplementation? : View ω α → Option (Implementation ω α)
  | .implementation run => some run
  | _ => none

/-- The view as a maker of fallbacks. -/
def asFallbackFactory? : View ω α → Option (CallError → Implementation ω α)
  | .fallbackFactory create => some create
  | _ => none

/-- The view as a setter factory. -/
def asSetterFactory? : View ω α → Option SetterFactory
  | .setterFactory setters => some setters
  | _ => none

/-- The type under which setter factories are registered. -/
def setterFactoryType : String :=
  "dyn lbclient::targeter::builder::SetterFactory + core::marker::Send + core::marker::Sync"

/-- The type under which makers of fallbacks for an interface are registered. -/
def fallbackFactoryType (interface : String) : String :=
  "dyn lbclient::targeter::client::FallbackFactory<" ++ interface ++
    "> + core::marker::Send + core::marker::Sync"

end View

namespace Targeter

variable {ω α : Type}

/-- The bean of a type as a view, or the fault that it is missing or of another kind. -/
def requireView {γ : Type} (registry : Registry (View ω α)) (mechanism : FallbackMechanism)
    (client bean view : String) (cast : View ω α → Option γ) : Except CallError γ :=
  match registry.get? client bean with
  | none => .error (.configuration (.missingBean mechanism bean client))
  | some found =>
    match (found.view? view).bind cast with
    | none => .error (.configuration (.incompatibleBean mechanism bean view client))
    | some value => .ok value

/-- The fallback a target asks for, taken from the registry. -/
def fallbackOf (registry : Registry (View ω α)) (interface : String) (target : Target) :
    Except CallError (Fallback ω α) :=
  match target.fallback with
  | .none => .ok .none
  | .fallback bean =>
    (requireView registry .fixed target.resolvedName bean interface
      View.asImplementation?).map .fixed
  | .factory bean =>
    (requireView registry .factory target.resolvedName bean (View.fallbackFactoryType interface)
      View.asFallbackFactory?).map .factory

/-- Binds a target through a builder of clients for an interface. -/
def bind (registry : Registry (View ω α)) (interface : String) (builder : Builder ω α)
    (target : Target) (world : ω) : Except CallError (BoundClient ω α × ω) := do
  if !builder.supportsFallback then .ok (builder.bind target world)
  else
    let found ← registry.find target.resolvedName View.setterFactoryType
    let builder := match found.bind View.asSetterFactory? with
      | some setters => builder.withSetters setters
      | none => builder
    let fallback ← fallbackOf registry interface target
    .ok (builder.bindWith target fallback world)

end Targeter

end ServiceCall
