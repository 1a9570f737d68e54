import ServiceCall.Json.Number
import ServiceCall.Text.Hex
import ServiceCall.Text.Utf8

/-! Reading JSON from bytes: the whole text must be one value, nested at most 127 levels deep. -/

namespace ServiceCall.Json

/-- The blank characters between JSON tokens. -/
def isBlank (c : Char) : Bool :=
  c == ' ' || c == '\n' || c == '\t' || c == '\r'

/-- The text after the blank characters at its start. -/
def skipBlanks (text : List Char) : List Char :=
  text.dropWhile isBlank

/-- Reads four hexadecimal digits. -/
def readHex4 : List Char → Option (Nat × List Char)
  | a :: b :: c :: d :: rest => do
    let a ← Text.hexValue? a
    let b ← Text.hexValue? b
    let c ← Text.hexValue? c
    let d ← Text.hexValue? d
    some (((a * 16 + b) * 16 + c) * 16 + d, rest)
  | _ => none

/-- Reads the escape after a backslash and the letter u; a surrogate must come with its partner. -/
def readUnicodeEscape (text : List Char) : Option (Char × List Char) := do
  let (unit, rest) ← readHex4 text
  if 0xDC00 ≤ unit ∧ unit ≤ 0xDFFF then none
  else if 0xD800 ≤ unit ∧ unit ≤ 0xDBFF then
    match rest with
    | '\\' :: 'u' :: rest =>
      let (low, rest) ← readHex4 rest
      if 0xDC00 ≤ low ∧ low ≤ 0xDFFF then
        some (Char.ofNat (0x10000 + (unit - 0xD800) * 0x400 + (low - 0xDC00)), rest)
      else none
    | _ => none
  else some (Char.ofNat unit, rest)

/-- The character a one-letter escape stands for. -/
def simpleEscape? : Char → Option Char
  | '"' => some '"'
  | '\\' => some '\\'
  | '/' => some '/'
  | 'b' => some '\x08'
  | 'f' => some '\x0c'
  | 'n' => some '\n'
  | 'r' => some '\r'
  | 't' => some '\t'
  | _ => none

/-- Reads a string after its opening quote; the first argument bounds its length. -/
def readString : Nat → List Char → Option (List Char × List Char)
  | 0, _ => none
  | fuel + 1, text =>
    match text with
    | [] => none
    | '"' :: rest => some ([], rest)
    | '\\' :: 'u' :: rest => do
      let (c, rest) ← readUnicodeEscape rest
      let (cs, rest) ← readString fuel rest
      some (c :: cs, rest)
    | '\\' :: e :: rest => do
      let c ← simpleEscape? e
      let (cs, rest) ← readString fuel rest
      some (c :: cs, rest)
    | c :: rest =>
      if c.toNat < 0x20 ∨ c = '\\' then none
      else do
        let (cs, rest) ← readString fuel rest
        some (c :: cs, rest)

mutual

/-- Reads one value; the arguments bound the steps and the levels of nesting that are left. -/
def readValue : Nat → Nat → List Char → Option (Value × List Char)
  | 0, _, _ => none
  | fuel + 1, depth, text =>
    match skipBlanks text with
    | 'n' :: 'u' :: 'l' :: 'l' :: rest => some (.null, rest)
    | 't' :: 'r' :: 'u' :: 'e' :: rest => some (.bool true, rest)
    | 'f' :: 'a' :: 'l' :: 's' :: 'e' :: rest => some (.bool false, rest)
    | '"' :: rest => (readString (rest.length + 1) rest).map fun (cs, rest) =>
      (.string (String.ofList cs), rest)
    | '-' :: rest => readNumber true rest
    | '[' :: rest =>
      if depth = 0 then none
      else match skipBlanks rest with
        | ']' :: rest => some (.array [], rest)
        | rest => readElements fuel (depth - 1) [] rest
    | '\x7b' :: rest =>
      if depth = 0 then none
      else match skipBlanks rest with
        | '\x7d' :: rest => some (.object [], rest)
        | rest => readMembers fuel (depth - 1) [] rest
    | rest => readNumber false rest

/-- Reads the elements of an array after those already read, in reverse, up to its bracket. -/
def readElements : Nat → Nat → List Value → List Char → Option (Value × List Char)
  | 0, _, _, _ => none
  | fuel + 1, depth, done, text => do
    let (value, rest) ← readValue fuel depth text
    match skipBlanks rest with
    | ',' :: rest => readElements fuel depth (value :: done) rest
    | ']' :: rest => some (.array (value :: done).reverse, rest)
    | _ => none

/-- Reads the members of an object after those already read, in reverse, up to its brace. -/
def readMembers : Nat → Nat → List (String × Value) → List Char → Option (Value × List Char)
  | 0, _, _, _ => none
  | fuel + 1, depth, done, text =>
    match skipBlanks text with
    | '"' :: rest => do
      let (cs, rest) ← readString (rest.length + 1) rest
      match skipBlanks rest with
      | ':' :: rest =>
        let (value, rest) ← readValue fuel depth rest
        let done := (String.ofList cs, value) :: done
        match skipBlanks rest with
        | ',' :: rest => readMembers fuel depth done rest
        | '\x7d' :: rest => some (.object done.reverse, rest)
        | _ => none
      | _ => none
    | _ => none

end

/-- Reads a text that is one JSON value with blanks around it. -/
def parse? (text : List Char) : Option Value := do
  let (value, rest) ← readValue (2 * text.length + 1) 127 text
  if (skipBlanks rest).isEmpty then some value else none

/-- Reads bytes that are one JSON value in UTF-8. -/
def read? (bytes : List UInt8) : Option Value :=
  match Utf8.decode bytes with
  | .ok text => parse? text
  | .error _ => none

end ServiceCall.Json
