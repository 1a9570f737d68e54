import Mathlib.Data.List.Induction
import ServiceCall.Target.Registry

/-!
What a client is given after any registrations. A scope keeps the latest bean of each type, a bean
is usable as what it was declared to be when it was registered, and no client sees what was
registered for another one.
-/

namespace ServiceCall

variable {V : Type}

/-- The first value under a name is that of the first entry, if the entry has the name. -/
theorem lookup_cons_eq {α : Type} (name : String) (value : α) (rest : List (String × α))
    (asked : String) :
    ((name, value) :: rest).lookup asked =
      if asked = name then some value else rest.lookup asked := by
  -- The search compares the name with that of the first entry.
  by_cases same : asked = name
  · simp [same]
  · simp [List.lookup_cons, same, beq_false_of_ne same]

namespace Bean

/-- A declared view is found, and all others are as before. -/
theorem lookup_assignView (type : String) (view : V) (views : List (String × V))
    (asked : String) :
    (assignView type view views).lookup asked =
      if asked = type then some view else views.lookup asked := by
  -- The search for the old view of the type passes the views that stay.
  induction views with
  | nil => exact lookup_cons_eq type view [] asked
  | cons entry rest ih =>
    obtain ⟨name, old⟩ := entry
    rw [assignView, lookup_cons_eq]
    by_cases here : name = type
    · -- The old view of the type stood here, and the new one takes its place.
      rw [if_pos here, lookup_cons_eq, here]
      split <;> rfl
    · rw [if_neg here, lookup_cons_eq, ih]
      by_cases same : asked = name
      · rw [if_pos same, if_pos same, if_neg (same ▸ here)]
      · rw [if_neg same, if_neg same]

/-- A bean exposed as one more type is usable as that type, and as all others as before. -/
theorem view?_exposing (bean : Bean V) (type : String) (view : V) (asked : String) :
    (bean.exposing type view).view? asked = if asked = type then some view else bean.view? asked :=
  lookup_assignView type view bean.views asked

end Bean

/-- One registration: a bean for a client or for all of them, and what it is declared usable as. -/
structure Registration (V : Type) where
  scope : Option String
  type : String
  self : V
  exposed : List (String × V) := []

namespace Registration

/-- The bean of a registration, with the views that were declared for it in turn. -/
def bean (registration : Registration V) : Bean V :=
  registration.exposed.foldl (fun bean (type, view) => bean.exposing type view)
    (.ofType registration.type registration.self)

/-- The view a registration has declared last for a type; its own type is declared to begin with. -/
def view? (registration : Registration V) (type : String) : Option V :=
  ((registration.exposed.filter (·.1 = type)).getLast?.map (·.2)).or
    (if type = registration.type then some registration.self else none)

/-- Exposing a bean as further types leaves its own type. -/
theorem type_foldl_exposing (bean : Bean V) (exposed : List (String × V)) :
    (exposed.foldl (fun bean (type, view) => bean.exposing type view) bean).type = bean.type := by
  -- The induction is on the declarations, each of which adds a view.
  induction exposed generalizing bean with
  | nil => rfl
  | cons entry rest ih => exact ih _

/-- The type of a registered bean is the one it was registered under. -/
theorem type_bean (registration : Registration V) : registration.bean.type = registration.type :=
  type_foldl_exposing _ registration.exposed

/-- Of several views declared for a type the last one is found, before any older one. -/
theorem view?_foldl_exposing (bean : Bean V) (exposed : List (String × V)) (asked : String) :
    (exposed.foldl (fun bean (type, view) => bean.exposing type view) bean).view? asked =
      ((exposed.filter (·.1 = asked)).getLast?.map (·.2)).or (bean.view? asked) := by
  -- The induction is on the declarations; the first one counts as old for the others.
  induction exposed generalizing bean with
  | nil => rfl
  | cons entry rest ih =>
    obtain ⟨type, view⟩ := entry
    rw [List.foldl_cons, ih, Bean.view?_exposing]
    by_cases here : type = asked
    · subst here
      cases later : (rest.filter (·.1 = type)).getLast? <;> simp [List.getLast?_cons, later]
    · simp [here, Ne.symm here]

/-- A registered bean is usable as what was declared for it, and as nothing else. -/
theorem view?_bean (registration : Registration V) (type : String) :
    registration.bean.view? type = registration.view? type := by
  -- The own type was declared before all others.
  have own : (Bean.ofType registration.type registration.self).view? type =
      if type = registration.type then some registration.self else none :=
    lookup_cons_eq registration.type registration.self [] type
  rw [bean, view?_foldl_exposing, own, view?]

end Registration

namespace Registry

/-- The beans of a scope: those of one client alone, or those that all clients share. -/
def beansOf (registry : Registry V) : Option String → List (Bean V)
  | some client => registry.scope client
  | none => registry.shared

/-- The beans that are usable as a type. -/
def usable (type : String) (beans : List (Bean V)) : List (Bean V) :=
  beans.filter fun bean => (bean.view? type).isSome

/-- The beans usable as a type in the first scope that a client sees any in. -/
def candidates (registry : Registry V) (client type : String) : List (Bean V) :=
  match usable type (registry.scope client) with
  | [] => usable type registry.shared
  | own => own

/-- What a client is given of some candidates: nothing, the view of a single one, or a fault. -/
def single (client type : String) : List (Bean V) → Except CallError (Option V)
  | [] => .ok none
  | [bean] => .ok (bean.view? type)
  | first :: second :: _ =>
    .error (.configuration (.ambiguousBean type client first.type second.type))

/-- The single view of a scope is that of the single bean usable as the type. -/
theorem uniqueView_eq (client type : String) (beans : List (Bean V)) :
    uniqueView client type beans = single client type (usable type beans) := by
  -- The beans without a view of the type do not count on either side.
  have dropped : usableAs type beans = usableAs type (usable type beans) := by
    rw [usableAs, usableAs, usable, List.filterMap_filter]
    congr 1
    funext bean
    cases bean.view? type <;> rfl
  have viewed : ∀ bean ∈ usable type beans, ∃ view, bean.view? type = some view :=
    fun bean member => Option.isSome_iff_exists.mp (List.mem_filter.mp member).2
  rw [uniqueView, dropped]
  generalize usable type beans = found at viewed
  match found with
  | [] => rfl
  | [bean] =>
    obtain ⟨view, same⟩ := viewed bean (by simp)
    simp [usableAs, single, same]
  | first :: second :: rest =>
    obtain ⟨view, same⟩ := viewed first (by simp)
    obtain ⟨other, also⟩ := viewed second (by simp)
    simp [usableAs, single, same, also]

/-- A client is given the view of the single bean among its candidates. -/
theorem find_eq (registry : Registry V) (client type : String) :
    registry.find client type = single client type (registry.candidates client type) := by
  unfold find candidates
  rw [uniqueView_eq, uniqueView_eq]
  -- Only a scope without a candidate leaves the answer to the next one.
  match own : usable type (registry.scope client) with
  | [] => rfl
  | [bean] =>
    have member : bean ∈ usable type (registry.scope client) := by simp [own]
    obtain ⟨view, same⟩ := Option.isSome_iff_exists.mp (List.mem_filter.mp member).2
    simp [single, same, bind, Except.bind]
  | first :: second :: rest => rfl

/-- A client is given the first bean of a type among its own and then among the shared ones. -/
theorem get?_eq (registry : Registry V) (client type : String) :
    registry.get? client type =
      (registry.scope client ++ registry.shared).find? (·.type = type) := by
  -- The own beans are searched first.
  rw [get?, List.find?_append]
  cases (registry.scope client).find? (·.type = type) <;> rfl

/-- A change to the beans of one client is seen there and nowhere else. -/
theorem lookup_updateScope (client : String) (change : List (Bean V) → List (Bean V))
    (scopes : List (String × List (Bean V))) (asked : String) :
    ((updateScope client change scopes).lookup asked).getD [] =
      if asked = client then change ((scopes.lookup client).getD [])
      else (scopes.lookup asked).getD [] := by
  -- The induction is on the scopes; a client that is not among them starts without any beans.
  induction scopes with
  | nil =>
    rw [updateScope, lookup_cons_eq]
    split <;> rfl
  | cons entry rest ih =>
    obtain ⟨name, beans⟩ := entry
    rw [updateScope, lookup_cons_eq, lookup_cons_eq]
    by_cases here : name = client
    · subst here
      rw [if_pos rfl, if_pos rfl, lookup_cons_eq]
      by_cases same : asked = name <;> simp [same]
    · -- The scope is that of another client, which stays as it is.
      rw [if_neg here, if_neg (Ne.symm here), lookup_cons_eq]
      by_cases same : asked = name
      · rw [if_pos same, if_pos same, if_neg (same ▸ here)]
      · rw [if_neg same, if_neg same, ih]

/-- A registration places its bean in its own scope and leaves all others. -/
theorem beansOf_register (registry : Registry V) (client : Option String) (bean : Bean V)
    (scope : Option String) :
    (registry.register client bean).beansOf scope =
      if scope = client then place bean (registry.beansOf client) else registry.beansOf scope := by
  -- A registration goes to the shared beans or to those of one client.
  cases client with
  | none => cases scope <;> simp [register, beansOf, Registry.scope]
  | some client =>
    cases scope with
    | none => simp [register, beansOf]
    | some asked =>
      simp only [register, beansOf, Registry.scope, Option.some.injEq]
      exact lookup_updateScope client (place bean) registry.scopes asked

/-- The registry after some registrations, the latest one last. -/
def ofRegistrations (history : List (Registration V)) : Registry V :=
  history.foldl
    (fun registry registration => registry.register registration.scope registration.bean) {}

/-- The registrations of a scope, in their order. -/
def within (scope : Option String) (history : List (Registration V)) : List (Registration V) :=
  history.filter (·.scope = scope)

/-- The most recent registration of a type in a scope, if there is one. -/
def latest (scope : Option String) (type : String) (history : List (Registration V)) :
    Option (Registration V) :=
  ((within scope history).filter (·.type = type)).getLast?

/-- The most recent registration of a type is one of that type. -/
theorem type_of_latest {scope : Option String} {type : String} {history : List (Registration V)}
    {registration : Registration V} (found : latest scope type history = some registration) :
    registration.type = type := by
  -- The most recent one is found among those of the type.
  have member := List.mem_of_getLast? found
  simpa using (List.mem_filter.mp member).2

/-- The registrations that no later one of their type has replaced. -/
def unreplaced : List (Registration V) → List (Registration V)
  | [] => []
  | registration :: later =>
    if registration.type ∈ later.map (·.type) then unreplaced later
    else registration :: unreplaced later

/-- The current registrations of a scope: the most recent one of each type. -/
def current (scope : Option String) (history : List (Registration V)) : List (Registration V) :=
  unreplaced (within scope history)

/-- What was not replaced was registered. -/
theorem unreplaced_subset (history : List (Registration V)) : unreplaced history ⊆ history := by
  -- The induction is on the registrations, each of which is kept or left out.
  induction history with
  | nil => exact List.Subset.refl []
  | cons first later ih =>
    rw [unreplaced]
    split
    · exact List.subset_cons_of_subset first ih
    · exact List.cons_subset_cons first ih

/-- No type is left twice. -/
theorem nodup_unreplaced (history : List (Registration V)) :
    ((unreplaced history).map (·.type)).Nodup := by
  induction history with
  | nil => exact List.nodup_nil
  | cons first later ih =>
    rw [unreplaced]
    split
    · -- A first one that is replaced later is left out.
      exact ih
    · -- The type of the first one is not registered again, so it is not left again either.
      rename_i fresh
      refine List.nodup_cons.mpr ⟨fun again => fresh ?_, ih⟩
      obtain ⟨other, left, same⟩ := List.mem_map.mp again
      exact List.mem_map.mpr ⟨other, unreplaced_subset later left, same⟩

/-- One more registration replaces the one of its type, if there is one, and comes last. -/
theorem unreplaced_concat (history : List (Registration V)) (last : Registration V) :
    unreplaced (history ++ [last]) =
      (unreplaced history).filter (·.type ≠ last.type) ++ [last] := by
  -- The induction is on the earlier registrations, of which only those of the type go.
  induction history with
  | nil => rfl
  | cons first later ih =>
    rw [List.cons_append, unreplaced, unreplaced, ih]
    by_cases same : first.type = last.type
    · -- The first one goes now, unless it was replaced before.
      rw [if_pos (by simp [same])]
      split
      · rfl
      · simp [same]
    · by_cases again : first.type ∈ later.map (·.type)
      · rw [if_pos (by simp [List.mem_map.mp again]), if_pos again]
      · rw [if_neg (by simpa [same] using again), if_neg again]
        simp [same]

/-- The registration of a type that is left is the most recent one. -/
theorem find?_unreplaced (history : List (Registration V)) (type : String) :
    (unreplaced history).find? (·.type = type) = (history.filter (·.type = type)).getLast? := by
  -- The induction is on the registrations; those of other types are passed.
  induction history with
  | nil => rfl
  | cons first later ih =>
    rw [unreplaced]
    by_cases own : first.type = type
    · -- The first one is the most recent of its type exactly if none of them comes later.
      subst own
      rw [List.filter_cons_of_pos (by simp), List.getLast?_cons, ← ih]
      by_cases again : first.type ∈ later.map (·.type)
      · obtain ⟨other, among, same⟩ := List.mem_map.mp again
        have left : (later.filter (·.type = first.type)).getLast? ≠ none := by
          simp only [ne_eq, List.getLast?_eq_none_iff]
          exact List.ne_nil_of_mem (List.mem_filter.mpr ⟨among, by simp [same]⟩)
        obtain ⟨last, found⟩ := Option.ne_none_iff_exists'.mp left
        rw [if_pos again, ih, found]
        rfl
      · have none_later : (unreplaced later).find? (·.type = first.type) = none := by
          rw [ih]
          simp only [List.getLast?_eq_none_iff, List.filter_eq_nil_iff]
          intro other among same
          exact again (List.mem_map.mpr ⟨other, among, by simpa using same⟩)
        rw [if_neg again, none_later]
        simp
    · rw [List.filter_cons_of_neg (by simpa using own), ← ih]
      split
      · rfl
      · rw [List.find?_cons_of_neg (by simpa using own)]

/-- Placing a bean replaces the one of its type among those of some registrations. -/
theorem place_map_bean (last : Registration V) (held : List (Registration V)) :
    place last.bean (held.map Registration.bean) =
      (held.filter (·.type ≠ last.type) ++ [last]).map Registration.bean := by
  -- The type of a bean is that of its registration.
  rw [place, List.filter_map, List.map_append, List.map_singleton]
  congr 3
  funext registration
  rw [Bool.eq_iff_iff]
  simp [Registration.type_bean]

/-- A registry holds the current registrations of each scope, in their order. -/
theorem beansOf_ofRegistrations (history : List (Registration V)) (scope : Option String) :
    (ofRegistrations history).beansOf scope = (current scope history).map Registration.bean := by
  -- The induction is on the registrations, of which the last one is placed last.
  induction history using List.reverseRecOn with
  | nil => cases scope <;> rfl
  | append_singleton earlier last ih =>
    rw [ofRegistrations, List.foldl_append, ← ofRegistrations, List.foldl_cons, List.foldl_nil,
      beansOf_register, current, within, List.filter_append]
    by_cases own : scope = last.scope
    · subst own
      rw [if_pos rfl, ih, place_map_bean, List.filter_cons_of_pos (by simp), List.filter_nil,
        unreplaced_concat, current, within]
    · -- Another scope is left as it was.
      rw [if_neg own, ih, List.filter_cons_of_neg (by simpa using Ne.symm own), List.filter_nil,
        List.append_nil, current, within]

/-- A client sees the most recent bean of a type in its own scope, or else in the shared one. -/
theorem get?_ofRegistrations (history : List (Registration V)) (client type : String) :
    (ofRegistrations history).get? client type =
      ((latest (some client) type history).or (latest none type history)).map
        Registration.bean := by
  -- In each scope, the bean of the type is that of its latest registration.
  have found : ∀ scope, ((ofRegistrations history).beansOf scope).find? (·.type = type) =
      (latest scope type history).map Registration.bean := by
    intro scope
    rw [beansOf_ofRegistrations, List.find?_map, latest, ← find?_unreplaced, current]
    congr 2
    funext registration
    simp [Registration.type_bean]
  have own : ((ofRegistrations history).scope client).find? (·.type = type) =
      (latest (some client) type history).map Registration.bean := found (some client)
  have shared : (ofRegistrations history).shared.find? (·.type = type) =
      (latest none type history).map Registration.bean := found none
  rw [get?_eq, List.find?_append, own, shared]
  cases latest (some client) type history <;> simp

/-- The beans of a registry that are usable as a type are those of such registrations. -/
theorem usable_ofRegistrations (history : List (Registration V)) (scope : Option String)
    (type : String) :
    usable type ((ofRegistrations history).beansOf scope) =
      ((current scope history).filter fun registration => (registration.view? type).isSome).map
        Registration.bean := by
  -- A bean is usable as what its registration has declared.
  rw [beansOf_ofRegistrations, usable, List.filter_map]
  congr 2
  funext registration
  simp [Registration.view?_bean]

/-- The candidates of a client, by its current registrations and the shared ones. -/
theorem find_ofRegistrations (history : List (Registration V)) (client type : String) :
    let usableIn := fun scope =>
      (current scope history).filter fun registration => (registration.view? type).isSome
    (ofRegistrations history).find client type =
      match usableIn (some client), usableIn none with
      | [], [] => .ok none
      | [registration], _ | [], [registration] => .ok (registration.view? type)
      | first :: second :: _, _ | [], first :: second :: _ =>
        .error (.configuration (.ambiguousBean type client first.type second.type)) := by
  intro usableIn
  have own : usable type ((ofRegistrations history).scope client) =
      (usableIn (some client)).map Registration.bean :=
    usable_ofRegistrations history (some client) type
  have shared : usable type (ofRegistrations history).shared =
      (usableIn none).map Registration.bean := usable_ofRegistrations history none type
  rw [find_eq, candidates, own, shared]
  -- The client's own scope decides unless no registration there is usable as the type.
  generalize usableIn (some client) = first
  generalize usableIn none = second
  match first with
  | [registration] => simp [single, Registration.view?_bean]
  | _ :: _ :: _ => simp [single, Registration.type_bean]
  | [] =>
    match second with
    | [] => rfl
    | [registration] => simp [single, Registration.view?_bean]
    | _ :: _ :: _ => simp [single, Registration.type_bean]

/-- Registrations for other clients do not concern the scopes that a client sees. -/
theorem within_filter (scope : Option String) (client : String)
    (seen : scope = none ∨ scope = some client) (history : List (Registration V)) :
    within scope (history.filter fun registration =>
      registration.scope = none ∨ registration.scope = some client) = within scope history := by
  -- A registration of the scope is one that the client sees.
  rw [within, within, List.filter_filter]
  congr 1
  funext registration
  by_cases own : registration.scope = scope
  · simp [own, seen]
  · simp [own]

/--
A registry gives a client what was registered last. Each scope holds one bean of a type at most; a
client sees the most recent bean of a type in its own scope and else the most recent shared one,
usable as it was declared with that registration; it is given the single bean usable as a type from
the first of the two scopes that has any, and a fault when that scope has two. What was registered
for other clients makes no difference.
-/
theorem ofRegistrations_answers (history : List (Registration V)) :
    let registry := ofRegistrations history
    (∀ scope, ((registry.beansOf scope).map (·.type)).Nodup) ∧
    (∀ client type,
      let seen := (latest (some client) type history).or (latest none type history)
      registry.get? client type = seen.map Registration.bean ∧
      ∀ registration ∈ seen, registration.bean.type = type ∧ ∀ asked,
        registration.bean.view? asked =
          ((registration.exposed.filter (·.1 = asked)).getLast?.map (·.2)).or
            (if asked = type then some registration.self else none)) ∧
    (∀ client type,
      let usableIn := fun scope =>
        (current scope history).filter fun registration => (registration.view? type).isSome
      registry.find client type =
        match usableIn (some client), usableIn none with
        | [], [] => .ok none
        | [registration], _ | [], [registration] => .ok (registration.view? type)
        | first :: second :: _, _ | [], first :: second :: _ =>
          .error (.configuration (.ambiguousBean type client first.type second.type))) ∧
    ∀ client type,
      let relevant := ofRegistrations (history.filter fun registration =>
        registration.scope = none ∨ registration.scope = some client)
      registry.get? client type = relevant.get? client type ∧
        registry.find client type = relevant.find client type := by
  intro registry
  refine ⟨fun scope => ?_, fun client type => ⟨get?_ofRegistrations history client type, ?_⟩,
    fun client type => ?_, fun client type => ?_⟩
  · -- The current registrations of a scope have different types.
    have types : (Bean.type ∘ Registration.bean : Registration V → String) = Registration.type :=
      funext Registration.type_bean
    rw [beansOf_ofRegistrations, List.map_map, types]
    exact nodup_unreplaced _
  · -- What is seen was registered under the type.
    intro registration seen
    have own : registration.type = type := by
      rcases Option.or_eq_some_iff.mp seen with own | ⟨_, shared⟩
      · exact type_of_latest own
      · exact type_of_latest shared
    refine ⟨own ▸ registration.type_bean, fun asked => ?_⟩
    rw [registration.view?_bean, Registration.view?, own]
  · exact find_ofRegistrations history client type
  · -- Both scopes that the client sees are the same without the others.
    intro relevant
    have own := within_filter (some client) client (.inr rfl) history
    have shared := within_filter none client (.inl rfl) history
    constructor
    · -- The latest registrations of the type are the same.
      rw [get?_ofRegistrations, get?_ofRegistrations]
      simp only [latest, own, shared]
    · -- And so are those that are current.
      rw [find_ofRegistrations, find_ofRegistrations]
      simp only [current, own, shared]

end Registry

end ServiceCall
