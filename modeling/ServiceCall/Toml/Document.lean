import ServiceCall.Toml.Scalar
import ServiceCall.Toml.Table

/-! TOML documents: first their values and lines, then the table that the lines make up. -/

namespace ServiceCall.Toml

mutual

/-- Reads a value; the arguments bound the steps and the levels of nesting that are left. -/
def readValue : Nat → Nat → List Char → Option (Value × List Char)
  | 0, _, _ => none
  | fuel + 1, depth, text =>
    match text with
    | '"' :: _ => (readString text).map fun (s, rest) => (.string s, rest)
    | '\'' :: _ => (readString text).map fun (s, rest) => (.string s, rest)
    | '[' :: rest => if depth = 0 then none else readElements fuel (depth - 1) rest
    | '\x7b' :: rest =>
      if depth = 0 then none
      else match skipBlanks rest with
        | '\x7d' :: rest => some (.table [], rest)
        | rest => readPairs fuel (depth - 1) [] rest
    | _ => readScalar text

/-- Reads the elements of an array up to its bracket; a comma may follow the last one. -/
def readElements : Nat → Nat → List Char → Option (Value × List Char)
  | 0, _, _ => none
  | fuel + 1, depth, text =>
    match skipLines (text.length + 1) text with
    | ']' :: rest => some (.array [], rest)
    | text => do
      let (value, rest) ← readValue fuel depth text
      match skipLines (rest.length + 1) rest with
      | ']' :: rest => some (.array [value], rest)
      | ',' :: rest =>
        match ← readElements fuel depth rest with
        | (.array values, rest) => some (.array (value :: values), rest)
        | _ => none
      | _ => none

/-- Reads the pairs of an inline table, after those already read, up to its brace. -/
def readPairs : Nat → Nat → Entries → List Char → Option (Value × List Char)
  | 0, _, _, _ => none
  | fuel + 1, depth, entries, text => do
    let ((path, key), rest) ← readKey text
    let rest ← expect? '=' rest
    let (value, rest) ← readValue fuel depth (skipBlanks rest)
    let entries ← entries.assign key value path
    match skipBlanks rest with
    | ',' :: rest => readPairs fuel depth entries rest
    | '\x7d' :: rest => some (.table (entriesToValues entries), rest)
    | _ => none

end

/-- A line of a document: the header of a table or of an element of an array, or an assignment. -/
inductive Line where
  | table (path : List String) (key : String)
  | element (path : List String) (key : String)
  | assignment (path : List String) (key : String) (value : Value)

/-- Reads one line that is neither empty nor a comment, and gives the text after it. -/
def readLine (text : List Char) : Option (Line × List Char) :=
  match text with
  | '[' :: '[' :: rest => do
    let ((path, key), rest) ← readKey rest
    let rest ← expect? ']' rest
    let rest ← expect? ']' rest
    let rest ← finishLine? rest
    some (.element path key, rest)
  | '[' :: rest => do
    let ((path, key), rest) ← readKey rest
    let rest ← expect? ']' rest
    let rest ← finishLine? rest
    some (.table path key, rest)
  | _ => do
    let ((path, key), rest) ← readKey text
    let rest ← expect? '=' rest
    let rest := skipBlanks rest
    let (value, rest) ← readValue (2 * rest.length + 2) (maxDepth - 1) rest
    let rest ← finishLine? rest
    some (.assignment path key value, rest)

/-- Reads all lines of a text; the first argument bounds their number. -/
def readLinesFrom : Nat → List Char → Option (List Line)
  | 0, _ => none
  | fuel + 1, text =>
    match skipLines (text.length + 1) text with
    | [] => some []
    | text => do
      let (line, rest) ← readLine text
      let lines ← readLinesFrom fuel rest
      some (line :: lines)

/-- A document under construction: its root table, and the path of the table that is open. -/
structure Assembly where
  root : Entries := []
  current : List String := []

/-- The document with one more line. -/
def Assembly.add (assembly : Assembly) : Line → Option Assembly
  | .table path key => do
    let root ← assembly.root.changeAt (Entries.openTable key) path
    some { root, current := path ++ [key] }
  | .element path key => do
    let root ← assembly.root.changeAt (Entries.openElement key) path
    some { root, current := path ++ [key] }
  | .assignment path key value => do
    let root ← assembly.root.changeAt (Entries.assign key value path) assembly.current
    some { assembly with root }

/-- Reads a document, which may start with a byte order mark, as the entries of its root table. -/
def parse? (text : String) : Option (List (String × Value)) := do
  let text := match text.toList with
    | '\uFEFF' :: rest => rest
    | text => text
  let lines ← readLinesFrom (text.length + 1) text
  let assembly ← lines.foldlM Assembly.add {}
  some (entriesToValues assembly.root)

end ServiceCall.Toml
