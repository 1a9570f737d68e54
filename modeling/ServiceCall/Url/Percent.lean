import ServiceCall.Text.Hex
import ServiceCall.Text.Utf8

/-!
Percent-encoding. Each part of a URL has its own set of characters that must be written as encoded
bytes; control characters and everything beyond ASCII are encoded in all of them.
-/

namespace ServiceCall.Url

/-- A test for the characters that a part of a URL must encode. -/
abbrev EncodeSet := Char → Bool

/-- Control characters and everything beyond ASCII. -/
def controlSet : EncodeSet := fun c => c.toNat < 0x20 || 0x7E < c.toNat

/-- What a fragment encodes. -/
def fragmentSet : EncodeSet := fun c =>
  controlSet c || c == ' ' || c == '"' || c == '<' || c == '>' || c == '\x60'

/-- What a path encodes. -/
def pathSet : EncodeSet := fun c =>
  fragmentSet c || c == '#' || c == '?' || c == '\x7b' || c == '\x7d'

/-- What a user name or password encodes. -/
def userinfoSet : EncodeSet := fun c =>
  pathSet c || c == '/' || c == ':' || c == ';' || c == '=' || c == '@'
    || c == '[' || c == '\\' || c == ']' || c == '^' || c == '|'

/-- What the query of a URL encodes; the web schemes also encode the apostrophe. -/
def querySet (special : Bool) : EncodeSet := fun c =>
  controlSet c || c == ' ' || c == '"' || c == '#' || c == '<' || c == '>'
    || (special && c == '\'')

/-- The upper-case hexadecimal digit of a value below sixteen. -/
def upperHexDigit (value : Nat) : Char :=
  (Nat.digitChar value).toUpper

/-- A byte as a percent sign and two hexadecimal digits. -/
def encodeByte (b : UInt8) : List Char :=
  ['%', upperHexDigit (b.toNat / 16), upperHexDigit (b.toNat % 16)]

/-- A text with the characters of a set written as encoded bytes. -/
def percentEncode (set : EncodeSet) (text : List Char) : List Char :=
  text.flatMap fun c => if set c then (String.utf8EncodeChar c).flatMap encodeByte else [c]

/-- The bytes of a text in which each percent sign with two hexadecimal digits is one byte. -/
def percentDecode : List Char → List UInt8
  | '%' :: high :: low :: rest =>
    match Text.hexValue? high, Text.hexValue? low with
    | some h, some l => UInt8.ofNat (h * 16 + l) :: percentDecode rest
    | _, _ => '%'.toUInt8 :: percentDecode (high :: low :: rest)
  | c :: rest => String.utf8EncodeChar c ++ percentDecode rest
  | [] => []

end ServiceCall.Url
