import ServiceCall.Failure

/-!
Beans by client. A bean is registered in the scope of one client or in the default scope, and can
be used as what it is and as what it was declared to be. The default scope is consulted only where
the scope of a client has nothing to offer.
-/

namespace ServiceCall

/-- A registered bean: its type, and the views declared for it. -/
structure Bean (V : Type) where
  type : String
  views : List (String × V)

namespace Bean

variable {V : Type}

/-- Views with one more, which replaces an older one of its type. -/
def assignView (type : String) (view : V) : List (String × V) → List (String × V)
  | [] => [(type, view)]
  | (t, v) :: rest => if t = type then (type, view) :: rest else (t, v) :: assignView type view rest

/-- The bean declared to be usable as one more type. -/
def exposing (bean : Bean V) (type : String) (view : V) : Bean V :=
  { bean with views := assignView type view bean.views }

/-- The bean as a type, if it was declared to be usable as it. -/
def view? (bean : Bean V) (type : String) : Option V :=
  bean.views.lookup type

/-- A bean of a type that is usable as that type alone. -/
def ofType (type : String) (self : V) : Bean V :=
  { type, views := [(type, self)] }

end Bean

/-- The beans of all clients by name, and those that every client shares. -/
structure Registry (V : Type) where
  scopes : List (String × List (Bean V)) := []
  shared : List (Bean V) := []

namespace Registry

variable {V : Type}

/-- Beans with one more, which replaces an older one of its type. -/
def place (bean : Bean V) (beans : List (Bean V)) : List (Bean V) :=
  beans.filter (·.type != bean.type) ++ [bean]

/-- Changes the beans of one client, which starts without any. -/
def updateScope (client : String) (change : List (Bean V) → List (Bean V)) :
    List (String × List (Bean V)) → List (String × List (Bean V))
  | [] => [(client, change [])]
  | (name, beans) :: rest =>
    if name = client then (name, change beans) :: rest
    else (name, beans) :: updateScope client change rest

/-- Registers a bean for one client, or for every client when none is named. -/
def register (registry : Registry V) (client : Option String) (bean : Bean V) : Registry V :=
  match client with
  | some client => { registry with scopes := updateScope client (place bean) registry.scopes }
  | none => { registry with shared := place bean registry.shared }

/-- The beans registered for one client alone. -/
def scope (registry : Registry V) (client : String) : List (Bean V) :=
  (registry.scopes.lookup client).getD []

/-- The bean of exactly a type that a client sees. -/
def get? (registry : Registry V) (client type : String) : Option (Bean V) :=
  ((registry.scope client).find? (·.type = type)).orElse fun _ =>
    registry.shared.find? (·.type = type)

/-- The types of the beans of a scope that are usable as a type, with their views. -/
def usableAs (type : String) (beans : List (Bean V)) : List (String × V) :=
  beans.filterMap fun bean => (bean.view? type).map (bean.type, ·)

/-- The single view of a type in a scope, if any; two of them are a configuration fault. -/
def uniqueView (client type : String) (beans : List (Bean V)) : Except CallError (Option V) :=
  match usableAs type beans with
  | [] => .ok none
  | [(_, view)] => .ok (some view)
  | (first, _) :: (second, _) :: _ =>
    .error (.configuration (.ambiguousBean type client first second))

/-- The single bean usable as a type that a client sees, its own scope coming first. -/
def find (registry : Registry V) (client type : String) : Except CallError (Option V) := do
  match ← uniqueView client type (registry.scope client) with
  | some view => .ok (some view)
  | none => uniqueView client type registry.shared

end Registry

end ServiceCall
