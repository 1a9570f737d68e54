import ServiceCall.Toml.Value

/-!
Tables under construction. A table is opened once by a header, or arises from a longer header or
from a dotted key; how it arose decides which later lines may still extend it.
-/

namespace ServiceCall.Toml

/-- How a table arose: from its own header, from a longer header, or from a dotted key. -/
inductive Origin where
  | header
  | implied
  | dotted
  deriving DecidableEq, Repr

/-- What stands under a key: a value, a table, or the tables of an array, the last one apart. -/
inductive Node where
  | value (value : Value)
  | table (origin : Origin) (entries : List (String × Node))
  | tables (earlier : List (List (String × Node))) (last : List (String × Node))

/-- The keys of a table with what stands under them. -/
abbrev Entries := List (String × Node)

namespace Entries

/-- Puts a node under a key, in place of the one that stands there. -/
def put (key : String) (node : Node) : Entries → Entries
  | [] => [(key, node)]
  | (k, n) :: rest => if k = key then (key, node) :: rest else (k, n) :: put key node rest

/-- Assigns a value to a key after dotted keys; a table opened elsewhere is not extended. -/
def assign (key : String) (value : Value) : List String → Entries → Option Entries
  | [], entries =>
    match entries.lookup key with
    | some _ => none
    | none => some (entries.put key (.value value))
  | step :: path, entries =>
    match entries.lookup step with
    | none => (assign key value path []).map fun inner => entries.put step (.table .dotted inner)
    | some (.value _) => none
    | some (.table origin inner) =>
      if origin = .header ∨ (path = [] ∧ origin ≠ .dotted) then none
      else (assign key value path inner).map fun inner => entries.put step (.table origin inner)
    | some (.tables earlier last) =>
      if path = [] then none
      else (assign key value path last).map fun last => entries.put step (.tables earlier last)

/-- Changes the table at a path of headers, where arrays of tables lead to their last table. -/
def changeAt (change : Entries → Option Entries) : List String → Entries → Option Entries
  | [], entries => change entries
  | step :: path, entries =>
    match entries.lookup step with
    | none =>
      (changeAt change path []).map fun inner => entries.put step (.table .implied inner)
    | some (.value _) => none
    | some (.table origin inner) =>
      (changeAt change path inner).map fun inner => entries.put step (.table origin inner)
    | some (.tables earlier last) =>
      (changeAt change path last).map fun last => entries.put step (.tables earlier last)

/-- Opens the table of a header, which may have been implied but not opened before. -/
def openTable (key : String) (entries : Entries) : Option Entries :=
  match entries.lookup key with
  | none => some (entries.put key (.table .header []))
  | some (.table .implied inner) => some (entries.put key (.table .header inner))
  | some _ => none

/-- Opens one more table of an array of tables. -/
def openElement (key : String) (entries : Entries) : Option Entries :=
  match entries.lookup key with
  | none => some (entries.put key (.tables [] []))
  | some (.tables earlier last) => some (entries.put key (.tables (earlier ++ [last]) []))
  | some _ => none

end Entries

mutual

/-- The value of a node. -/
def Node.toValue : Node → Value
  | .value value => value
  | .table _ entries => .table (entriesToValues entries)
  | .tables earlier last => .array (elementsToValues earlier ++ [.table (entriesToValues last)])

/-- The values under the keys of a table. -/
def entriesToValues : List (String × Node) → List (String × Value)
  | [] => []
  | (key, node) :: rest => (key, node.toValue) :: entriesToValues rest

/-- The values of the tables of an array. -/
def elementsToValues : List (List (String × Node)) → List Value
  | [] => []
  | entries :: rest => .table (entriesToValues entries) :: elementsToValues rest

end

end ServiceCall.Toml
