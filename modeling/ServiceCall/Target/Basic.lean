import ServiceCall.Failure.Misconfiguration
import ServiceCall.Text.Split

/-!
Targets of generated clients: the service they talk to, the interface they offer, and the fallback
they are bound with.
-/

namespace ServiceCall

/-- The fallback a target asks for: none, a bean that offers the interface, or a maker of one. -/
inductive FallbackSpec where
  | none
  | fallback (bean : String)
  | factory (bean : String)
  deriving DecidableEq, Repr

/-- What a generated client is bound to. -/
structure Target where
  name : String
  interface : String
  contextId : Option String := none
  url : String
  fallback : FallbackSpec := .none
  deriving DecidableEq, Repr

namespace Target

/-- A target for an interface and a service, addressed by the name of the service. -/
def ofName (interface name : String) : Target :=
  { name, interface, url := "http://" ++ name }

/-- The name under which beans are looked up: the context id unless it is absent or empty. -/
def resolvedName (target : Target) : String :=
  match target.contextId with
  | some id => if id = "" then target.name else id
  | none => target.name

/-- A text without any copies of a nonempty word at its start; the first argument is a bound. -/
def withoutStart (word : List Char) : Nat → List Char → List Char
  | 0, text => text
  | fuel + 1, text =>
    match Text.afterStart? word text with
    | some rest => withoutStart word fuel rest
    | none => text

/-- The text before the first double colon. -/
def beforeDoubleColon : List Char → List Char
  | ':' :: ':' :: _ => []
  | c :: rest => c :: beforeDoubleColon rest
  | [] => []

/-- The text after the last double colon. -/
def afterLastPath (text : List Char) : List Char :=
  (beforeDoubleColon text.reverse).reverse

/-- The name of an interface without its generic arguments and without the path before it. -/
def simpleName (interface : String) : String :=
  let name := interface.toList
  let bare := withoutStart "dyn ".toList name.length name
  String.ofList (afterLastPath (bare.takeWhile (· != '<')))

/-- The key of one method of a client. -/
def methodKey (target : Target) (method : String) : String :=
  simpleName target.interface ++ "#" ++ method

end Target

end ServiceCall
