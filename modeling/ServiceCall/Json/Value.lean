/-! JSON values as response bodies carry them. -/

namespace ServiceCall.Json

/--
A JSON value. A number is an integer between -2^63 and 2^64 - 1, or else the bits of a double. The
members of an object stand as they are written, and a name may be repeated.
-/
inductive Value where
  | null
  | bool (value : Bool)
  | integer (value : Int)
  | double (bits : UInt64)
  | string (value : String)
  | array (elements : List Value)
  | object (members : List (String × Value))
  deriving Repr

/-- Members with one more, which replaces an older one of its name. -/
def assign {α : Type} (name : String) (value : α) : List (String × α) → List (String × α)
  | [] => [(name, value)]
  | (n, v) :: rest => if n = name then (name, value) :: rest else (n, v) :: assign name value rest

mutual

/-- The value with distinct names in every object: of a repeated name the last member counts. -/
def Value.merged : Value → Value
  | .array elements => .array (mergedElements elements)
  | .object members => .object (mergedMembers [] members)
  | value => value

/-- The elements of an array with distinct names in every object. -/
def mergedElements : List Value → List Value
  | [] => []
  | value :: rest => value.merged :: mergedElements rest

/-- Members after those already merged, with distinct names in every object. -/
def mergedMembers (done : List (String × Value)) : List (String × Value) → List (String × Value)
  | [] => done
  | (name, value) :: rest => mergedMembers (assign name value.merged done) rest

end

namespace Value

/-- The value as a text. -/
def asString? : Value → Option String
  | .string value => some value
  | _ => none

/-- The value as a list of texts. -/
def asStrings? : Value → Option (List String)
  | .array elements => elements.mapM asString?
  | _ => none

/-- The value as a count below 2^32. -/
def asCount? : Value → Option Nat
  | .integer value => if 0 ≤ value ∧ value < UInt32.size then some value.toNat else none
  | _ => none

/-- The value as counts by name. Every member must be a count, also one that is replaced later. -/
def asCounts? : Value → Option (List (String × Nat))
  | .object members => do
    let counts ← members.mapM fun (name, value) => (asCount? value).map (name, ·)
    some (counts.foldl (fun done (name, count) => assign name count done) [])
  | _ => none

end Value

end ServiceCall.Json
