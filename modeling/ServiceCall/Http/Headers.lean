import ServiceCall.Text.AsciiCase

/-!
Header fields as an ordered multimap. A name keeps the spelling it was first given, and two
spellings that differ in ASCII case alone are one name.
-/

namespace ServiceCall

/-- Header names in the order of their first use, each with its values in order. -/
structure Headers where
  entries : List (String × List String)
  deriving DecidableEq, Repr

namespace Headers

/-- No header fields. -/
def empty : Headers := ⟨[]⟩

/-- Changes the values of a name, or adds the name at the end with fresh values. -/
def updateEntries (name : String) (change : List String → List String) (fresh : List String) :
    List (String × List String) → List (String × List String)
  | [] => [(name, fresh)]
  | (spelling, values) :: rest =>
    if Text.sameIgnoringCase spelling name then (spelling, change values) :: rest
    else (spelling, values) :: updateEntries name change fresh rest

/-- Adds a value after the values already present for the name. -/
def append (headers : Headers) (name value : String) : Headers :=
  ⟨updateEntries name (· ++ [value]) [value] headers.entries⟩

/-- Replaces all values of a name. -/
def insert (headers : Headers) (name : String) (values : List String) : Headers :=
  ⟨updateEntries name (fun _ => values) values headers.entries⟩

/-- The values of a name in any spelling. -/
def get? (headers : Headers) (name : String) : Option (List String) :=
  (headers.entries.find? fun entry => Text.sameIgnoringCase entry.1 name).map (·.2)

/-- The first value of a name in any spelling. -/
def first? (headers : Headers) (name : String) : Option String :=
  (headers.get? name).bind List.head?

/-- Whether a name is present in any spelling. -/
def contains (headers : Headers) (name : String) : Bool :=
  (headers.get? name).isSome

/-- The number of names. -/
def size (headers : Headers) : Nat :=
  headers.entries.length

/-- Whether no name is present. -/
def isEmpty (headers : Headers) : Bool :=
  headers.entries.isEmpty

/-- The fields built by adding pairs one by one. -/
def ofList (pairs : List (String × String)) : Headers :=
  pairs.foldl (fun headers pair => headers.append pair.1 pair.2) empty

/-- Replaces the values stored under exactly this key, or adds the key. -/
def assignKey (key : String) (values : List String) :
    List (String × List String) → List (String × List String)
  | [] => [(key, values)]
  | (k, v) :: rest => if k = key then (key, values) :: rest else (k, v) :: assignKey key values rest

/-- A copy keyed by exact spelling, in which a later entry replaces an earlier one of its key. -/
def toMap (headers : Headers) : List (String × List String) :=
  headers.entries.foldl (fun map entry => assignKey entry.1 entry.2 map) []

end Headers

end ServiceCall
