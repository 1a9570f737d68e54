/-! Facts published for a server, kept in the order of their keys so that equal facts are equal. -/

namespace ServiceCall

/-- Published facts by key; the entries stand in the order of their keys, each key once. -/
structure Metadata where
  entries : List (String × String)
  deriving DecidableEq, Repr

namespace Metadata

/-- No facts. -/
def empty : Metadata := ⟨[]⟩

/-- Places a fact among ordered entries, replacing the one of the same key. -/
def insertInto (key value : String) : List (String × String) → List (String × String)
  | [] => [(key, value)]
  | (k, v) :: rest =>
    if key = k then (key, value) :: rest
    else if key < k then (key, value) :: (k, v) :: rest
    else (k, v) :: insertInto key value rest

/-- The facts with one more, which replaces an older one of the same key. -/
def insert (facts : Metadata) (key value : String) : Metadata :=
  ⟨insertInto key value facts.entries⟩

/-- The value published under a key. -/
def get? (facts : Metadata) (key : String) : Option String :=
  facts.entries.lookup key

end Metadata

end ServiceCall
