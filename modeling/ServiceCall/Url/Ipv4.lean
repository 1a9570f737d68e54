import ServiceCall.Text.Split
import ServiceCall.Url.Percent
import ServiceCall.Url.Problem

/-!
IPv4 addresses as hosts of web URLs: one to four numbers in decimal, octal or hexadecimal, of which
the last fills all bytes that are left.
-/

namespace ServiceCall.Url.Ipv4

/-- How a part between dots reads as a number. -/
inductive Part where
  | number (value : Nat)
  | notANumber
  deriving DecidableEq, Repr

/-- The value of digits in a base, when all of them are digits of it. -/
def readDigits (base : Nat) (digits : List Char) : Part :=
  let step (value : Option Nat) (c : Char) : Option Nat := do
    let v ← value
    let d ← Text.hexValue? c
    if d < base then some (v * base + d) else none
  match digits.foldl step (some 0) with
  | some value => .number value
  | none => .notANumber

/-- Reads a part; 0x announces hexadecimal, and any other zero before a digit announces octal. -/
def readPart : List Char → Part
  | [] => .notANumber
  | '0' :: 'x' :: digits => readDigits 16 digits
  | '0' :: 'X' :: digits => readDigits 16 digits
  | '0' :: c :: digits => readDigits 8 (c :: digits)
  | digits => readDigits 10 digits

/-- The parts between dots, without the empty one after a dot at the end. -/
def parts (host : List Char) : List (List Char) :=
  let all := Text.splitAll (· == '.') host
  if 1 < all.length && all.getLast? == some [] then all.dropLast else all

/-- A host whose last part reads as a number can only be an IPv4 address. -/
def endsInNumber (host : List Char) : Bool :=
  match (parts host).getLast? with
  | none | some [] => false
  | some part => part.all Char.isDigit || readPart part != .notANumber

/-- Places numbers for the leading bytes before the number that fills the rest. -/
def combine : Nat → List Nat → Option Nat
  | _, [] => none
  | bytes, [last] => if last < 1 <<< (8 * bytes) then some last else none
  | bytes, n :: m :: rest =>
    if n < 256 then (combine (bytes - 1) (m :: rest)).map (n <<< (8 * (bytes - 1)) + ·) else none

/-- Reads an IPv4 address. -/
def parse (host : List Char) : Except Problem UInt32 :=
  let pieces := parts host
  if 4 < pieces.length then .error .invalidIpv4
  else
    let read := pieces.mapM fun piece => match readPart piece with
      | .number value => some value
      | .notANumber => none
    match read.bind (combine 4) with
    | some address => .ok (UInt32.ofNat address)
    | none => .error .invalidIpv4

/-- The address as four decimal numbers between dots. -/
def text (address : UInt32) : String :=
  let n := address.toNat
  let byte (shift : Nat) : String := toString (n >>> (8 * shift) % 256)
  byte 3 ++ "." ++ byte 2 ++ "." ++ byte 1 ++ "." ++ byte 0

end ServiceCall.Url.Ipv4
