import ServiceCall.Text.Split
import ServiceCall.Url.Percent

/-! The smallest parts of TOML: blanks, comments, line ends, strings and keys. -/

namespace ServiceCall.Toml

/-- Whether a character is blank within a line. -/
def isBlank (c : Char) : Bool :=
  c == ' ' || c == '\t'

/-- The text after the blank characters at its start. -/
def skipBlanks (text : List Char) : List Char :=
  text.dropWhile isBlank

/-- Whether a character may stand in a comment or a string: a tab, or no control character. -/
def isPlain (c : Char) : Bool :=
  c == '\t' || (0x20 ≤ c.toNat && c.toNat != 0x7F)

/-- The text after a line end at its start. -/
def lineEnd? : List Char → Option (List Char)
  | '\n' :: rest => some rest
  | '\r' :: '\n' :: rest => some rest
  | _ => none

/-- The text after a comment at its start, or the whole text when there is none. -/
def skipComment : List Char → List Char
  | '#' :: rest => rest.dropWhile isPlain
  | text => text

/-- The text after blanks, comments and line ends; the first argument bounds the steps. -/
def skipLines : Nat → List Char → List Char
  | 0, text => text
  | fuel + 1, text =>
    let text := skipComment (skipBlanks text)
    match lineEnd? text with
    | some rest => skipLines fuel rest
    | none => text

/-- The text after the rest of a line that holds no more than blanks and a comment. -/
def finishLine? (text : List Char) : Option (List Char) :=
  match skipComment (skipBlanks text) with
  | [] => some []
  | rest => lineEnd? rest

/-- The value of some hexadecimal digits. -/
def hexDigits? (digits : List Char) : Option Nat :=
  digits.foldl (fun value c => do
    let v ← value
    let d ← Text.hexValue? c
    some (v * 16 + d)) (some 0)

/-- Reads the character of an escape that gives its code in some hexadecimal digits. -/
def readCode (count : Nat) (text : List Char) : Option (Char × List Char) := do
  let digits := text.take count
  if digits.length < count then none
  else
    let code ← hexDigits? digits
    if code.isValidChar then some (Char.ofNat code, text.drop count) else none

/-- Reads what follows a backslash in a string. -/
def readEscape : List Char → Option (Char × List Char)
  | 'b' :: rest => some ('\x08', rest)
  | 't' :: rest => some ('\t', rest)
  | 'n' :: rest => some ('\n', rest)
  | 'f' :: rest => some ('\x0c', rest)
  | 'r' :: rest => some ('\r', rest)
  | '"' :: rest => some ('"', rest)
  | '\\' :: rest => some ('\\', rest)
  | 'u' :: rest => readCode 4 rest
  | 'U' :: rest => readCode 8 rest
  | _ => none

/-- Reads a basic string of one line after its quote; the first argument bounds the steps. -/
def readBasic : Nat → List Char → Option (List Char × List Char)
  | 0, _ => none
  | fuel + 1, text =>
    match text with
    | '"' :: rest => some ([], rest)
    | '\\' :: rest => do
      let (c, rest) ← readEscape rest
      let (cs, rest) ← readBasic fuel rest
      some (c :: cs, rest)
    | c :: rest =>
      if isPlain c then (readBasic fuel rest).map fun (cs, rest) => (c :: cs, rest) else none
    | [] => none

/-- Reads a literal string of one line after its quote. -/
def readLiteral : List Char → Option (List Char × List Char)
  | '\'' :: rest => some ([], rest)
  | c :: rest =>
    if isPlain c then (readLiteral rest).map fun (cs, rest) => (c :: cs, rest) else none
  | [] => none

/-- The text after blanks and line ends; the first argument bounds the steps. -/
def skipBreaks : Nat → List Char → List Char
  | 0, text => text
  | fuel + 1, text =>
    let text := skipBlanks text
    match lineEnd? text with
    | some rest => skipBreaks fuel rest
    | none => text

/-- The text after a line break that a backslash hides, with the blanks and lines after it. -/
def hiddenBreak? (text : List Char) : Option (List Char) :=
  (lineEnd? (skipBlanks text)).map fun rest => skipBreaks (rest.length + 1) rest

/--
Reads a string of several lines after its three quotes. Up to two quotes may stand before the three
that end it, and only a basic string has escapes. The first argument bounds the steps.
-/
def readLines (quote : Char) : Nat → List Char → Option (List Char × List Char)
  | 0, _ => none
  | fuel + 1, text =>
    let quotes := (text.takeWhile (· == quote)).length
    if 3 ≤ quotes then
      let ended := min quotes 5
      some (List.replicate (ended - 3) quote, text.drop ended)
    else match lineEnd? text with
      | some rest => (readLines quote fuel rest).map fun (cs, rest) => ('\n' :: cs, rest)
      | none =>
        match text with
        | [] => none
        | c :: rest =>
          if c = '\\' ∧ quote = '"' then
            match hiddenBreak? rest with
            | some rest => readLines quote fuel rest
            | none => do
              let (c, rest) ← readEscape rest
              let (cs, rest) ← readLines quote fuel rest
              some (c :: cs, rest)
          else if isPlain c then
            (readLines quote fuel rest).map fun (cs, rest) => (c :: cs, rest)
          else none

/-- Reads a string of any of the four kinds. -/
def readString (text : List Char) : Option (String × List Char) :=
  let afterBreak (rest : List Char) : List Char := (lineEnd? rest).getD rest
  let read := match text with
    | '"' :: '"' :: '"' :: rest => readLines '"' (rest.length + 1) (afterBreak rest)
    | '\'' :: '\'' :: '\'' :: rest => readLines '\'' (rest.length + 1) (afterBreak rest)
    | '"' :: rest => readBasic (rest.length + 1) rest
    | '\'' :: rest => readLiteral rest
    | _ => none
  read.map fun (cs, rest) => (String.ofList cs, rest)

/-- Whether a character may stand in a key without quotes. -/
def isKeyChar (c : Char) : Bool :=
  c.isAlphanum || c == '_' || c == '-'

/-- Reads one key, plain or in quotes. -/
def readSimpleKey (text : List Char) : Option (String × List Char) :=
  match text with
  | '"' :: rest => (readBasic (rest.length + 1) rest).map fun (cs, rest) => (String.ofList cs, rest)
  | '\'' :: rest => (readLiteral rest).map fun (cs, rest) => (String.ofList cs, rest)
  | _ =>
    let key := text.takeWhile isKeyChar
    if key.isEmpty then none else some (String.ofList key, text.drop key.length)

/-- Reads keys between dots with blanks around them; the first argument bounds their number. -/
def readKeys : Nat → List Char → Option (List String × List Char)
  | 0, _ => none
  | fuel + 1, text => do
    let (key, rest) ← readSimpleKey (skipBlanks text)
    match skipBlanks rest with
    | '.' :: rest =>
      let (keys, rest) ← readKeys fuel rest
      some (key :: keys, rest)
    | rest => some ([key], rest)

/-- The number of levels that keys and nested values stay below. -/
def maxDepth : Nat := 80

/-- Reads a key of fewer levels than are allowed: the path to it and its last part. -/
def readKey (text : List Char) : Option ((List String × String) × List Char) := do
  let (keys, rest) ← readKeys (maxDepth - 1) text
  let last ← keys.getLast?
  some ((keys.dropLast, last), rest)

end ServiceCall.Toml
