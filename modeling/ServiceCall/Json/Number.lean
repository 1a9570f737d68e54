import ServiceCall.Json.Value

/-!
JSON numbers. Digits are gathered into a 64-bit significand and the rest of the number into a
power of ten; the significand is then scaled by one rounded multiplication or division, so the last
bit may differ from that of the nearest double.
-/

namespace ServiceCall.Json

/-- The largest significand that is gathered. -/
def maxSignificand : Nat := UInt64.size - 1

/-- The value of a decimal digit. -/
def digitValue (c : Char) : Nat :=
  c.toNat - '0'.toNat

/-- Gathers digits into a significand while it fits; gives it and the digits that were left. -/
def gather (significand : Nat) : List Char → Nat × List Char
  | [] => (significand, [])
  | c :: rest =>
    let grown := significand * 10 + digitValue c
    if grown ≤ maxSignificand then gather grown rest else (significand, c :: rest)

/-- A power of ten up to 10^308 as a double. -/
def powerOfTen (exponent : Nat) : Float :=
  Float.ofScientific 1 false exponent

/--
Scales a significand by a power of ten, or none when the result is out of range. Very small numbers
are divided in steps, each by 10^308, and the first argument bounds their number.
-/
def scale? : Nat → Float → Int → Option Float
  | 0, f, _ => some f
  | steps + 1, f, exponent =>
    if exponent.natAbs ≤ 308 then
      if 0 ≤ exponent then
        let scaled := f * powerOfTen exponent.natAbs
        if scaled.isInf then none else some scaled
      else some (f / powerOfTen exponent.natAbs)
    else if f == 0.0 then some f
    else if 0 ≤ exponent then none
    else scale? steps (f / powerOfTen 308) (exponent + 308)

/-- The double with a sign, a significand and a power of ten, or none when it is out of range. -/
def double? (negative : Bool) (significand : Nat) (exponent : Int) : Option Value :=
  -- After three steps nothing is left of a 64-bit significand.
  (scale? 4 (UInt64.ofNat significand).toFloat exponent).map fun f =>
    .double (if negative then (-f).toBits else f.toBits)

/-- Reads the exponent after its mark, which an earlier power of ten shifts. -/
def readExponent (negative : Bool) (significand : Nat) (shift : Int) (text : List Char) :
    Option (Value × List Char) :=
  let (down, text) := match text with
    | '+' :: rest => (false, rest)
    | '-' :: rest => (true, rest)
    | _ => (false, text)
  let digits := text.takeWhile Char.isDigit
  let rest := text.dropWhile Char.isDigit
  if digits.isEmpty then none
  else
    let size := digits.foldl (fun value c => value * 10 + digitValue c) 0
    if Int32.maxValue.toInt < size then
      -- An exponent beyond 32 bits gives zero, unless it makes the number too large.
      if significand ≠ 0 ∧ down = false then none
      else some (.double (if negative then 0x8000000000000000 else 0), rest)
    else
      let exponent := if down then shift - size else shift + size
      (double? negative significand exponent).map (·, rest)

/-- Reads what may follow the digits before the point: a fraction, an exponent, or neither. -/
def readFraction (negative : Bool) (significand dropped : Nat) (text : List Char) :
    Option (Value × List Char) :=
  let finish (significand : Nat) (shift : Int) (text : List Char) :=
    match text with
    | 'e' :: rest => readExponent negative significand shift rest
    | 'E' :: rest => readExponent negative significand shift rest
    | _ => (double? negative significand shift).map (·, text)
  match text with
  | '.' :: rest =>
    let digits := rest.takeWhile Char.isDigit
    let (grown, ignored) := gather significand digits
    if digits.isEmpty then none
    else finish grown (dropped - (digits.length - ignored.length : Nat))
      (rest.dropWhile Char.isDigit)
  | _ => finish significand dropped text

/-- Whether a text goes on with a fraction or an exponent. -/
def goesOn : List Char → Bool
  | c :: _ => c == '.' || c == 'e' || c == 'E'
  | [] => false

/-- Reads a number after its sign. -/
def readNumber (negative : Bool) (text : List Char) : Option (Value × List Char) :=
  let digits := text.takeWhile Char.isDigit
  let rest := text.dropWhile Char.isDigit
  let (significand, dropped) := gather 0 digits
  if digits.isEmpty || (digits.head? == some '0' && 1 < digits.length) then none
  else if !dropped.isEmpty || goesOn rest then
    readFraction negative significand dropped.length rest
  else if !negative then some (.integer significand, rest)
  -- A negative zero, and what is below the 64-bit integers, is a double.
  else if 0 < significand ∧ Int64.minValue.toInt ≤ -significand then
    some (.integer (-significand), rest)
  else (double? true significand 0).map (·, rest)

end ServiceCall.Json
