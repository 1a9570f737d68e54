import ServiceCall.Config.Basic
import ServiceCall.Failure
import ServiceCall.Text.Split

/-!
References to environment variables in server entries. The references of an entry are found once in
its written text; each is then replaced everywhere in the text as it has become by then.
-/

namespace ServiceCall

/-- The bytes of each environment variable that exists. -/
abbrev Environment := String → Option (List UInt8)

namespace Environment

/-- The value of a variable that exists and is text. -/
def get? (environment : Environment) (name : String) : Option String :=
  match environment name with
  | some bytes =>
    match Utf8.decode bytes with
    | .ok text => some (String.ofList text)
    | .error _ => none
  | none => none

/-- The name in a reference, which stands before its closing brace, and the text after it. -/
def referenceName? (text : List Char) : Option (List Char × List Char) :=
  match Text.splitFirst? '\x7d' text with
  | some ([], _) => none
  | found => found

/-- The names referred to in a text from left to right; the first argument bounds the steps. -/
def referencesFrom : Nat → List Char → List String
  | 0, _ => []
  | fuel + 1, text =>
    match text with
    | [] => []
    | '$' :: '\x7b' :: rest =>
      match referenceName? rest with
      | some (name, rest) => String.ofList name :: referencesFrom fuel rest
      | none => referencesFrom fuel ('\x7b' :: rest)
    | _ :: rest => referencesFrom fuel rest

/-- The names referred to in a text from left to right. -/
def references (text : String) : List String :=
  referencesFrom text.toList.length text.toList

/-- The text of a reference to a variable. -/
def reference (name : String) : List Char :=
  '$' :: '\x7b' :: (name.toList ++ ['\x7d'])

/-- A text with every copy of a nonempty word replaced; the first argument bounds the steps. -/
def replaceFrom (word value : List Char) : Nat → List Char → List Char
  | 0, text => text
  | fuel + 1, text =>
    match text with
    | [] => []
    | c :: rest =>
      match Text.afterStart? word (c :: rest) with
      | some rest => value ++ replaceFrom word value fuel rest
      | none => c :: replaceFrom word value fuel rest

/-- A text with every copy of a reference replaced by a value. -/
def replace (name value text : String) : String :=
  String.ofList (replaceFrom (reference name) value.toList text.toList.length text.toList)

/-- Replaces the references of some names in turn, or gives the first name without a value. -/
def substitute (environment : Environment) : List String → String → Except String String
  | [], text => .ok text
  | name :: names, text =>
    match environment.get? name with
    | some value => substitute environment names (replace name value text)
    | none => .error name

/-- Replaces the references in an entry, or gives the first name without a value. -/
def resolve (environment : Environment) (entry : String) : Except String String :=
  environment.substitute (references entry) entry

/-- Resolves the server entries of a client from an index on. -/
def resolveServers (environment : Environment) (client : String) :
    Nat → List String → Except CallError (List String)
  | _, [] => .ok []
  | index, entry :: entries => do
    let entry ← (environment.resolve entry).mapError fun name =>
      CallError.configuration (.missingVariable name client index)
    let entries ← resolveServers environment client (index + 1) entries
    .ok (entry :: entries)

/-- Resolves the server entries of clients in turn. -/
def resolveClients (environment : Environment) :
    List (String × ClientOverrides) → Except CallError (List (String × ClientOverrides))
  | [] => .ok []
  | (name, overrides) :: rest => do
    let servers ← environment.resolveServers name 0 overrides.servers
    let rest ← resolveClients environment rest
    .ok ((name, { overrides with servers }) :: rest)

end Environment

/-- The configuration with the references in its server entries resolved. -/
def Config.resolveReferences (config : Config) (environment : Environment) :
    Except CallError Config :=
  (environment.resolveClients config.clients).map fun clients => { config with clients }

end ServiceCall
