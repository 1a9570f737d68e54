import ServiceCall.Text.Blank
import ServiceCall.Text.Split
import ServiceCall.Url.Basic

/-!
Reading URLs. The text is cut into its parts from the left, each part ending where a character
that starts the next one stands, and every part is brought into its written form.
-/

namespace ServiceCall.Url

/-- Whether a character separates path segments. -/
def isSlash (special : Bool) (c : Char) : Bool :=
  c == '/' || (special && c == '\\')

/-- Whether a character ends the authority of a URL. -/
def endsAuthority (special : Bool) (c : Char) : Bool :=
  isSlash special c || c == '?' || c == '#'

/-- Cuts a text before the first character satisfying a test. -/
def cutBefore (test : Char → Bool) (text : List Char) : List Char × List Char :=
  (text.takeWhile (!test ·), text.dropWhile (!test ·))

/-- The text without control characters and spaces at its ends, and without tabs and line ends. -/
def cleaned (text : List Char) : List Char :=
  (Text.trimBy (·.toNat ≤ 0x20) text).filter fun c => !(c == '\t' || c == '\n' || c == '\r')

/-- The scheme in lower case and the text after its colon. -/
def cutScheme? (text : List Char) : Option (List Char × List Char) :=
  let inScheme (c : Char) : Bool := c.isAlphanum || c == '+' || c == '-' || c == '.'
  match cutBefore (!inScheme ·) text with
  | (first :: rest, ':' :: after) =>
    if first.isAlpha then some ((first :: rest).map Char.toLower, after) else none
  | _ => none

/-- A query and a fragment, as they follow a path. -/
def parseTail (special : Bool) (text : List Char) : Option String × Option String :=
  let (query, rest) := match text with
    | '?' :: rest =>
      let (query, rest) := cutBefore (· == '#') rest
      (some (String.ofList (percentEncode (querySet special) query)), rest)
    | _ => (none, text)
  let fragment := match rest with
    | '#' :: fragment => some (String.ofList (percentEncode fragmentSet fragment))
    | _ => none
  (query, fragment)

/-- The number of dots a segment stands for, an encoded dot counting like a plain one. -/
def dotCount? : List Char → Option Nat
  | [] => some 0
  | '.' :: rest => (dotCount? rest).map (· + 1)
  | '%' :: '2' :: e :: rest =>
    if e == 'e' || e == 'E' then (dotCount? rest).map (· + 1) else none
  | _ => none

/-- A letter followed by a colon, or by the bar that stands for one. -/
def isDriveLetter : List Char → Bool
  | [letter, sign] => letter.isAlpha && (sign == ':' || sign == '|')
  | _ => false

/-- The segments of a path being read, the last one first. -/
abbrev Reversed := List String

/-- Leaves the last segment, except that a drive is never left. -/
def leave : Reversed → Reversed
  | [] => []
  | last :: rest => if isDriveLetter last.toList then last :: rest else rest

/-- Adds the segments of a text that is already cut at its slashes. -/
def addSegments (kind : SchemeKind) : List (List Char) → Reversed → Reversed
  | [], path => path
  | segment :: rest, path =>
    let last := rest.isEmpty
    let added := match dotCount? segment with
      | some 2 => if last then "" :: leave path else leave path
      | some 1 => if last then "" :: path else path
      | _ =>
        let written := match segment with
          | [letter, _] =>
            if kind = .file ∧ path.isEmpty ∧ isDriveLetter segment then [letter, ':'] else segment
          | _ => segment
        String.ofList (percentEncode pathSet written) :: path
    addSegments kind rest added

/-- Reads the segments after the first slash of a path. -/
def parseSegments (kind : SchemeKind) (text : List Char) : List String :=
  (addSegments kind (Text.splitAll (isSlash kind.isSpecial) text) []).reverse

/-- Reads the path that follows an authority, and gives the text after it. -/
def parseRooted (kind : SchemeKind) (text : List Char) : List String × List Char :=
  let (path, rest) := cutBefore (fun c => c == '?' || c == '#') text
  match path with
  | [] => (if kind.isSpecial then [""] else [], rest)
  | c :: after =>
    (parseSegments kind (if isSlash kind.isSpecial c then after else c :: after), rest)

/-- A user name and a password as they are written before a host. -/
def parseUserinfo (text : List Char) : String × String :=
  let (name, rest) := cutBefore (· == ':') text
  (String.ofList (percentEncode userinfoSet name),
    String.ofList (percentEncode userinfoSet (rest.drop 1)))

/-- Reads a port after its colon; no digits, or the port of the scheme, leave it out. -/
def parsePort (scheme : String) (digits : List Char) : Except Problem (Option UInt16) :=
  if digits.any (!Char.isDigit ·) then .error .invalidPort
  else
    let value := digits.foldl (fun value c => value * 10 + (c.toNat - '0'.toNat)) 0
    if 65535 < value then .error .invalidPort
    else
      let port := UInt16.ofNat value
      .ok (if digits.isEmpty ∨ defaultPort? scheme = some port then none else some port)

/-- Cuts a host from the port after it, at the first colon outside brackets. -/
def cutPort : Bool → List Char → List Char × Option (List Char)
  | _, [] => ([], none)
  | inside, c :: rest =>
    if c = ':' ∧ inside = false then ([], some rest)
    else
      let inside := if c = '[' then true else if c = ']' then false else inside
      let (host, port) := cutPort inside rest
      (c :: host, port)

/--
Reads the host and the port of a URL that is not a file. A port ends at a slash of either kind, so
a backslash after it, and what follows, is given back as the start of the path.
-/
def parseHostPort (scheme : String) (text : List Char) :
    Except Problem (Host × Option UInt16 × List Char) := do
  let special := (kindOf scheme).isSpecial
  let (written, port) := cutPort false text
  if written.isEmpty ∧ special then .error .emptyHost
  else
    let host ← if special then Host.parseWeb written else Host.parsePlain written
    match port with
    | none => .ok (host, none, [])
    | some afterColon =>
      if host = .empty then .error .emptyHost
      else
        let (digits, path) := cutBefore (· == '\\') afterColon
        let port ← parsePort scheme digits
        .ok (host, port, path)

/-- Reads what follows the two slashes of a URL that is not a file. -/
def parseAuthority (scheme : String) (text : List Char) : Except Problem Url := do
  let kind := kindOf scheme
  let (authority, rest) := cutBefore (endsAuthority kind.isSpecial) text
  let (userinfo, address) := match Text.splitLast? '@' authority with
    | some (userinfo, address) => (some userinfo, address)
    | none => (none, authority)
  -- An empty user name needs a host after it, unless the whole text ends there.
  if userinfo = some [] ∧ address.isEmpty ∧ !rest.isEmpty then .error .emptyHost
  else
    let (username, password) := parseUserinfo (userinfo.getD [])
    let (host, port, early) ← parseHostPort scheme address
    if host = .empty ∧ ¬(username = "" ∧ password = "") then .error .emptyHost
    else
      let (path, rest) := parseRooted kind (early ++ rest)
      let (query, fragment) := parseTail kind.isSpecial rest
      .ok { scheme, username, password, host := some host, port, path := .segments path
            query, fragment }

/-- The host of a file URL; the local machine is written as no host. -/
def parseFileHost (written : List Char) : Except Problem Host :=
  if written.isEmpty then .ok .empty
  else (Host.parseWeb written).map fun host =>
    if host = .domain "localhost" then .empty else host

/-- Segments without the empty ones at their start; the last segment is kept. -/
def withoutEmptyStart : List String → List String
  | "" :: next :: rest => withoutEmptyStart (next :: rest)
  | path => path

/-- Whether a path starts with a drive. -/
def startsWithDrive (path : List String) : Bool :=
  path.head?.any fun first => isDriveLetter first.toList

/--
The file URL of a host and the text after it. Its path starts with one slash, and a drive names a
place on the local machine, so that it leaves the host out.
-/
def fileUrl (host : Host) (text : List Char) : Url :=
  let (path, rest) := parseRooted .file text
  let (query, fragment) := parseTail true rest
  { scheme := "file"
    host := some (if startsWithDrive path then .empty else host)
    path := .segments (withoutEmptyStart path)
    query, fragment }

/-- Reads what follows the colon of a file URL. -/
def parseFile (text : List Char) : Except Problem Url :=
  match text with
  | a :: b :: rest =>
    if isSlash true a && isSlash true b then
      let (written, after) := cutBefore (endsAuthority true) rest
      if isDriveLetter written then .ok (fileUrl .empty rest)
      else (parseFileHost written).map fun host => fileUrl host after
    else .ok (fileUrl .empty text)
  | _ => .ok (fileUrl .empty text)

/-- Reads what follows the colon of a URL whose scheme is neither web nor file. -/
def parseOther (scheme : String) (text : List Char) : Except Problem Url :=
  match text with
  | '/' :: '/' :: rest => parseAuthority scheme rest
  | '/' :: _ =>
    let (path, rest) := parseRooted .other text
    let (query, fragment) := parseTail false rest
    .ok { scheme, path := .segments path, query, fragment }
  | _ =>
    let (path, rest) := cutBefore (fun c => c == '?' || c == '#') text
    let (query, fragment) := parseTail false rest
    .ok { scheme, path := .flat (String.ofList (percentEncode controlSet path)), query, fragment }

/-- Reads a URL. -/
def parse (text : String) : Except Problem Url :=
  match cutScheme? (cleaned text.toList) with
  | none => .error .noScheme
  | some (name, rest) =>
    let scheme := String.ofList name
    match kindOf scheme with
    | .web => parseAuthority scheme (rest.dropWhile (isSlash true))
    | .file => parseFile rest
    | .other => parseOther scheme rest

end ServiceCall.Url
