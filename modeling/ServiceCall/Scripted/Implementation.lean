import ServiceCall.Scripted.Sequence
import ServiceCall.Target.Targeter

/-! Implementations of interfaces that answer from a script, and beans that offer them. -/

namespace ServiceCall.Scripted

/-- A scripted run of a method; without a result of its own it gives a default one. -/
structure MethodRun where
  delay : Duration := .zero
  failure : Option CallError := none
  value : Option String := none

/-- What scripted implementations remember: the runs of the primary, and the addresses bound. -/
structure Memory where
  primaryCalls : Nat := 0
  madeFor : List String := []
  deriving DecidableEq, Repr

/-- The run of a method, with a default result. -/
def MethodRun.run (script : MethodRun) (standard : String) : Run String where
  took := script.delay
  outcome := match script.failure with
    | some error => .error error
    | none => .ok (script.value.getD standard)

/-- The primary implementation: the runs are taken in order and the last one is repeated. -/
def primary (runs : List MethodRun) : Implementation Memory String := fun method memory =>
  let script := (answerAt runs memory.primaryCalls).getD {}
  (script.run ("primary:" ++ method), { memory with primaryCalls := memory.primaryCalls + 1 })

/-- The maker of primary implementations, which remembers the address of each target. -/
def primaryFactory (runs : List MethodRun) (target : Target) (memory : Memory) :
    Implementation Memory String × Memory :=
  (primary runs, { memory with madeFor := memory.madeFor ++ [target.url] })

/-- A bean's script: its label, how its methods run, and the keys and limits it sets. -/
structure BeanScript where
  label : String
  run : MethodRun := {}
  group : Option String := none
  command : Option String := none
  timeout : Option Duration := none

/-- The bean as an implementation. -/
def BeanScript.implementation (bean : BeanScript) : Implementation Memory String :=
  fun method memory => (bean.run.run (bean.label ++ ":" ++ method), memory)

/-- The bean as a maker of fallbacks, whose results show the cause they were made for. -/
def BeanScript.fallbackFactory (bean : BeanScript) (cause : CallError) :
    Implementation Memory String :=
  fun method memory =>
    (bean.run.run (bean.label ++ "<" ++ cause.message ++ ">:" ++ method), memory)

/-- The bean as a setter factory over the standard one. -/
def BeanScript.setterFactory (bean : BeanScript) : SetterFactory := fun target method =>
  let standard := SetterFactory.standard target method
  { group := bean.group.getD standard.group
    command := bean.command.getD standard.command
    timeout := bean.timeout }

end ServiceCall.Scripted
