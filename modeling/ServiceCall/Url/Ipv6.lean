import ServiceCall.Url.Percent
import ServiceCall.Url.Problem

/-!
IPv6 addresses as hosts: eight pieces of four hexadecimal digits, of which one run of zeros may be
left out and the last two may be written as an IPv4 address.
-/

namespace ServiceCall.Url.Ipv6

/-- The pieces read so far, and how many stood before the place where zeros were left out. -/
structure Reading where
  pieces : List Nat := []
  gap : Option Nat := none
  deriving DecidableEq, Repr

/-- Reads up to a number of hexadecimal digits; gives their value, their count and the rest. -/
def readHex : Nat → List Char → Nat × Nat × List Char
  | 0, text => (0, 0, text)
  | limit + 1, text =>
    match text with
    | [] => (0, 0, [])
    | c :: rest =>
      match Text.hexValue? c with
      | none => (0, 0, c :: rest)
      | some d =>
        let (value, count, after) := readHex limit rest
        (d <<< (4 * count) + value, count + 1, after)

/-- Reads one decimal number below 256 that is not written with a leading zero. -/
def readByte (text : List Char) : Option (Nat × List Char) :=
  let digits := text.takeWhile Char.isDigit
  let value := digits.foldl (fun value c => value * 10 + (c.toNat - '0'.toNat)) 0
  if digits.isEmpty || 255 < value || (digits.head? == some '0' && 1 < digits.length) then none
  else some (value, text.drop digits.length)

/-- Reads four decimal numbers between dots up to the end of the text. -/
def readDotted (text : List Char) : Option (List Nat) := do
  let (a, rest) ← readByte text
  let '.' :: rest := rest | none
  let (b, rest) ← readByte rest
  let '.' :: rest := rest | none
  let (c, rest) ← readByte rest
  let '.' :: rest := rest | none
  let (d, rest) ← readByte rest
  let [] := rest | none
  some [a * 256 + b, c * 256 + d]

/-- Fills the place where zeros were left out; without one all eight pieces must be there. -/
def Reading.complete (reading : Reading) : Option (List Nat) :=
  match reading.gap with
  | none => if reading.pieces.length = 8 then some reading.pieces else none
  | some gap =>
    if reading.pieces.length < 8 then
      some (reading.pieces.take gap ++ List.replicate (8 - reading.pieces.length) 0
        ++ reading.pieces.drop gap)
    else none

/-- Reads pieces from a place where one may start; the first argument bounds their number. -/
def readPieces : Nat → List Char → Reading → Option Reading
  | 0, _, _ => none
  | fuel + 1, text, reading =>
    if text.isEmpty then some reading
    else if reading.pieces.length = 8 then none
    else match text with
      | ':' :: rest =>
        -- A colon where a piece should start is the second of the two that leave zeros out.
        if reading.gap.isSome then none
        else readPieces fuel rest { reading with gap := some reading.pieces.length }
      | _ =>
        let (value, count, after) := readHex 4 text
        let withPiece : Reading := { reading with pieces := reading.pieces ++ [value] }
        match after with
        | '.' :: _ =>
          if count = 0 || 6 < reading.pieces.length then none
          else (readDotted text).map fun two =>
            { reading with pieces := reading.pieces ++ two }
        | ':' :: rest => if rest.isEmpty then none else readPieces fuel rest withPiece
        | [] => some withPiece
        | _ => none

/-- Reads the text between the brackets of an IPv6 host. -/
def parse (text : List Char) : Except Problem (List Nat) :=
  let reading := match text with
    | ':' :: ':' :: rest => readPieces 20 rest { gap := some 0 }
    | ':' :: _ => none
    | _ => readPieces 20 text {}
  match reading.bind Reading.complete with
  | some pieces => .ok pieces
  | none => .error .invalidIpv6

/-- The length of the run of zeros at the start. -/
def zerosAtStart (pieces : List Nat) : Nat :=
  (pieces.takeWhile (· == 0)).length

/-- The start and length of the first longest run of zeros, searched from an index on. -/
def longestRun : Nat → List Nat → Nat × Nat
  | _, [] => (0, 0)
  | index, piece :: rest =>
    let here := zerosAtStart (piece :: rest)
    let later := longestRun (index + 1) rest
    if later.2 ≤ here then (index, here) else later

/-- Pieces in hexadecimal between colons. -/
def joined (pieces : List Nat) : String :=
  String.intercalate ":" (pieces.map fun piece => String.ofList (Nat.toDigits 16 piece))

/-- The shortest text: the first longest run of at least two zero pieces is left out. -/
def text (pieces : List Nat) : String :=
  let (start, length) := longestRun 0 pieces
  if length < 2 then joined pieces
  else joined (pieces.take start) ++ "::" ++ joined (pieces.drop (start + length))

end ServiceCall.Url.Ipv6
