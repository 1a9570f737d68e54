import Mathlib.Logic.Function.Basic
import ServiceCall.Proofs.Target.Episodes
import ServiceCall.Proofs.Target.InterfaceName

/-!
The commands of guarded clients. A command bears the simple name of the interface, so interfaces
that show different final names have no command in common, and a breaker that keeps a state for each
command keeps them apart in any calls.
-/

namespace ServiceCall

/-- Two clients have one command for a method exactly if their interfaces have one simple name. -/
theorem Target.methodKey_eq_iff (target other : Target) (method : String) :
    target.methodKey method = other.methodKey method ↔
      simpleName target.interface = simpleName other.interface := by
  constructor
  · intro same
    -- Both keys end in the same sign and method.
    have chars := congrArg String.toList same
    simp only [methodKey, String.toList_append, List.append_assoc] at chars
    exact String.toList_injective (List.append_cancel_right chars)
  · -- Nothing else of the target is in the key.
    intro same
    rw [methodKey, methodKey, same]

variable {γ ω α : Type}

/-- The breaker that keeps a state for each command, and treats each state as another one does. -/
def Breaker.perCommand (cell : Breaker γ) : Breaker (String → γ) where
  allow command states :=
    let (allowed, next) := cell.allow command (states command)
    (allowed, Function.update states command next)
  success command states :=
    Function.update states command (cell.success command (states command))
  failure command states :=
    Function.update states command (cell.failure command (states command))

namespace BoundClient

/-- The guarded part of a call leaves the states of all other commands. -/
theorem guardedOutcome_perCommand (client : BoundClient ω α) (cell : Breaker γ)
    (setter : CommandSetter) (method : String) (world : World (String → γ) ω) {command : String}
    (apart : command ≠ setter.command) :
    (client.guardedOutcome cell.perCommand setter method world).2.breaker command =
      world.breaker command := by
  cases answered : cell.perCommand.allow setter.command world.breaker with
  | mk allowed asked =>
    -- The question is about the command of the call, and so is what the breaker is told.
    have kept : asked command = world.breaker command := by
      have same : asked = Function.update world.breaker setter.command
          (cell.allow setter.command (world.breaker setter.command)).2 :=
        (congrArg Prod.snd answered).symm
      rw [same]
      exact Function.update_of_ne apart _ _
    cases allowed with
    | false =>
      -- A refused call tells the breaker nothing more.
      rw [client.guardedOutcome_refused method answered]
      exact kept
    | true =>
      cases ran : client.primary method world.inner with
      | mk run inner =>
        cases ended : limited setter.timeout run with
        | ok value =>
          rw [guardedOutcome_ok answered ran ended, ← kept]
          exact Function.update_of_ne apart _ _
        | error cause =>
          rw [guardedOutcome_error answered ran ended, ← kept]
          exact Function.update_of_ne apart _ _

/-- A fallback does not concern the breaker. -/
theorem breaker_recover {β : Type} (fallback : Fallback ω α) (client command method : String)
    (cause : CallError) (world : World β ω) :
    (recover fallback client command method cause world).2.breaker = world.breaker := by
  -- A fallback runs an implementation and counts a sample.
  cases fallback with
  | none => rfl
  | fixed implementation => rfl
  | factory create => rfl

/-- A call of a guarded client leaves the states of all commands but its own. -/
theorem call_perCommand {client : BoundClient ω α} {target : Target} {setters : SetterFactory}
    {fallback : Fallback ω α} (guarded : client.guard = .guarded target setters fallback)
    (cell : Breaker γ) {method command : String}
    (apart : command ≠ (setters target method).command) (world : World (String → γ) ω) :
    (client.call cell.perCommand method world).2.breaker command = world.breaker command := by
  -- The exchanges with the breaker are all about the command of the call.
  have kept := client.guardedOutcome_perCommand cell (setters target method) method world apart
  cases attempted : client.guardedOutcome cell.perCommand (setters target method) method world with
  | mk outcome next =>
    rw [attempted] at kept
    rw [call_guarded guarded attempted]
    cases outcome with
    | ok value => exact kept
    | error cause =>
      -- The fallback comes after all exchanges with the breaker.
      exact (congrFun (breaker_recover _ _ _ _ cause next) command).trans kept

end BoundClient

/-- A call of a method of clients that have a command for it other than a given one. -/
def ClientCall.Spares (call : ClientCall ω α) (command : String) : Prop :=
  ∃ target setters fallback, call.client.guard = .guarded target setters fallback ∧
    command ≠ (setters target call.method).command

/-- Calls that spare a command leave its state as it was, however many they are. -/
theorem ClientCall.makeAll_perCommand (cell : Breaker γ) {command : String}
    {calls : List (ClientCall ω α)} (spared : ∀ call ∈ calls, call.Spares command)
    (world : World (String → γ) ω) :
    (makeAll cell.perCommand calls world).2.breaker command = world.breaker command := by
  -- The induction is on the calls; the others start in the world that the first one has left.
  induction calls generalizing world with
  | nil => rfl
  | cons call rest ih =>
    obtain ⟨target, setters, fallback, guarded, apart⟩ := spared call List.mem_cons_self
    have others : ∀ call ∈ rest, call.Spares command :=
      fun call member => spared call (List.mem_cons_of_mem _ member)
    have first := BoundClient.call_perCommand guarded cell apart world
    rw [makeAll]
    exact (ih others _).trans first

/-- A target offers an interface, which it names in full. -/
def Target.Offers (target : Target) (name : InterfaceName) : Prop :=
  target.interface = name.text

/-- A target whose interface shows its final name has commands of this name. -/
theorem Target.methodKey_of_offers {target : Target} {name : InterfaceName}
    (offers : target.Offers name) (shows : name.ShowsFinal) (method : String) :
    target.methodKey method = name.final ++ "#" ++ method := by
  rw [methodKey, offers, name.simpleName_eq_final_iff.mpr shows]

/--
The commands of an interface bear its final name exactly if it shows it, as it does with arguments
or without bounds; otherwise a last bound with scopes gives them its own name. Interfaces that show
different final names never share a command for a method, and no calls of the method on clients of
the others change the state of its command at a breaker that keeps one for each.
-/
theorem InterfaceName.commands_of_text (name : InterfaceName) :
    (Target.simpleName name.text = name.final ↔ name.ShowsFinal) ∧
    (∀ bound ∈ name.bounds.getLast?, name.arguments = none → bound.scopes ≠ [] →
      Target.simpleName name.text = bound.final.text) ∧
    ∀ (target : Target) (method : String), target.Offers name → name.ShowsFinal →
      target.methodKey method = name.final ++ "#" ++ method ∧
      (∀ (rival : Target) (other : InterfaceName), rival.Offers other → other.ShowsFinal →
        (target.methodKey method = rival.methodKey method ↔ name.final = other.final)) ∧
      ∀ {γ ω α : Type} (cell : Breaker γ) (world : World (String → γ) ω)
        (calls : List (ClientCall ω α)),
        (∀ call ∈ calls, call.method = method ∧ ∃ rival other fallback,
          call.client.guard = .guarded rival .standard fallback ∧
            rival.Offers other ∧ other.ShowsFinal ∧ other.final ≠ name.final) →
        (ClientCall.makeAll cell.perCommand calls world).2.breaker (target.methodKey method) =
          world.breaker (target.methodKey method) := by
  refine ⟨name.simpleName_eq_final_iff, ?_, ?_⟩
  · -- The final name of such a bound stands behind the last double colon.
    intro bound last bare leads
    exact simpleName_of_scopes bare last leads
  · intro target method offers shows
    have keys : ∀ (rival : Target) (other : InterfaceName), rival.Offers other →
        other.ShowsFinal →
          (target.methodKey method = rival.methodKey method ↔ name.final = other.final) := by
      intro rival other also displays
      -- Keys are told apart by simple names, which are the final ones on both sides.
      rw [target.methodKey_eq_iff rival, offers, also, name.simpleName_eq_final_iff.mpr shows,
        other.simpleName_eq_final_iff.mpr displays]
    refine ⟨Target.methodKey_of_offers offers shows method, keys, ?_⟩
    intro γ ω α cell world calls others
    -- Each call is of another command, since the final names differ.
    apply ClientCall.makeAll_perCommand
    intro call member
    obtain ⟨same, rival, other, fallback, guarded, also, displays, apart⟩ := others call member
    refine ⟨rival, .standard, fallback, guarded, ?_⟩
    rw [same]
    intro shared
    exact apart ((keys rival other also displays).mp shared).symm

/-- Arguments with paths and brackets of their own are cut off, and the bounds with them. -/
theorem InterfaceName.commands_of_text_arguments :
    let repo : InterfaceName :=
      { path := { scopes := [{ chars := "shop".toList }], final := { chars := "Repo".toList } }
        arguments := some "dyn shop::Items, [a::B<u8>]".toList
        bounds :=
          [{ scopes := [{ chars := "marker".toList }], final := { chars := "Send".toList } }] }
    let items : InterfaceName :=
      { path := { scopes := [{ chars := "shop".toList }], final := { chars := "Items".toList } } }
    let target := Target.ofName repo.text "shop"
    let rival := Target.ofName items.text "shop"
    let counting : Breaker Nat :=
      { allow := fun _ failures => (true, failures), success := fun _ _ => 0
        failure := fun _ failures => failures + 1 }
    let failing : BoundClient Unit Unit :=
      { primary := fun _ world => (⟨.zero, .error (.io "down")⟩, world)
        guard := .guarded rival .standard .none }
    let after := (ClientCall.makeAll counting.perCommand [⟨failing, "list"⟩]
      { breaker := fun _ => 0, inner := () }).2.breaker
    repo.text = "dyn shop::Repo<dyn shop::Items, [a::B<u8>]> + marker::Send" ∧
      target.methodKey "list" = "Repo#list" ∧ rival.methodKey "list" = "Items#list" ∧
      after "Items#list" = 1 ∧ after (target.methodKey "list") = 0 := by
  intro repo items target rival counting failing after
  -- The name has arguments, so it shows its final name, whatever its bounds are.
  obtain ⟨key, -, kept⟩ := (commands_of_text repo).2.2 target "list" rfl (.inl rfl)
  refine ⟨by decide +kernel, key, by decide +kernel, by decide +kernel, kept counting _ _ ?_⟩
  intro call member
  obtain rfl := List.mem_singleton.mp member
  exact ⟨rfl, rival, items, .none, rfl, rfl, .inr (.inl rfl), by decide +kernel⟩

/-- Two interfaces with the same marker as their only bound share all commands. -/
theorem InterfaceName.commands_of_marker :
    let marker : TypePath :=
      { scopes := [{ chars := "core".toList }, { chars := "marker".toList }]
        final := { chars := "Send".toList } }
    let items : InterfaceName :=
      { path := { scopes := [{ chars := "shop".toList }], final := { chars := "Items".toList } }
        bounds := [marker] }
    let orders : InterfaceName :=
      { path := { scopes := [{ chars := "shop".toList }], final := { chars := "Orders".toList } }
        bounds := [marker] }
    items.text = "dyn shop::Items + core::marker::Send" ∧
      Target.simpleName items.text = "Send" ∧ items.final = "Items" ∧
      (Target.ofName items.text "items").methodKey "list" = "Send#list" ∧
      (Target.ofName orders.text "orders").methodKey "list" = "Send#list" ∧
      items.final ≠ orders.final := by
  decide +kernel

end ServiceCall
