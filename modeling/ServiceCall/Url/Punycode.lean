/-!
Punycode: a label beyond ASCII as its ASCII characters followed by numbers. The other characters are
inserted among the ASCII ones in the order of their codes, and each number tells how far it is from
one insertion to the next. Numbers are written in digits of base 36, the lowest digit first, with
thresholds that adapt to the numbers before them.
-/

namespace ServiceCall.Url.Punycode

/-- One inserted character: its code, and how many of the characters placed stand before it. -/
structure Insertion where
  code : Nat
  place : Nat
  deriving DecidableEq, Repr

/-- The insertions of one code from left to right; the second argument counts what is before. -/
def insertionsOf (code : Nat) : Nat → List Char → List Insertion
  | _, [] => []
  | before, c :: rest =>
    if c.toNat = code then ⟨code, before⟩ :: insertionsOf code (before + 1) rest
    else insertionsOf code (if c.toNat < code then before + 1 else before) rest

/-- The least code of an inserted character. -/
def leastCode : Nat := 128

/-- The insertions that build a label from its ASCII characters. -/
def insertions (label : List Char) : List Insertion :=
  let codes := (label.map Char.toNat).filter (leastCode ≤ ·)
  (codes.mergeSort (· ≤ ·)).eraseDups.flatMap fun code => insertionsOf code 0 label

/--
Where the next insertion is looked for: first at the later places of a code, then at all places of
the codes after it. Each code has one place more than there are characters placed.
-/
structure Cursor where
  code : Nat
  place : Nat
  placed : Nat

namespace Cursor

/-- The cursor before all insertions. -/
def start (placed : Nat) : Cursor := ⟨leastCode, 0, placed⟩

/-- The cursor after an insertion. -/
def after (cursor : Cursor) (insertion : Insertion) : Cursor :=
  ⟨insertion.code, insertion.place + 1, cursor.placed + 1⟩

/-- The number of steps to an insertion. -/
def distance (cursor : Cursor) (insertion : Insertion) : Nat :=
  (insertion.code - cursor.code) * (cursor.placed + 1) + insertion.place - cursor.place

/-- The insertion that is some steps away. -/
def reach (cursor : Cursor) (distance : Nat) : Insertion :=
  let steps := cursor.place + distance
  ⟨cursor.code + steps / (cursor.placed + 1), steps % (cursor.placed + 1)⟩

end Cursor

/-- The numbers of steps between some insertions. -/
def distances : Cursor → List Insertion → List Nat
  | _, [] => []
  | cursor, insertion :: rest =>
    cursor.distance insertion :: distances (cursor.after insertion) rest

/-- The bound below which steps and the weights of digits stay. -/
def bound : Nat := UInt32.size

/-- A label with the insertions made that are some numbers of steps apart. -/
def build : Cursor → List Char → List Nat → Option (List Char)
  | _, label, [] => some label
  | cursor, label, distance :: rest =>
    let insertion := cursor.reach distance
    if cursor.place + distance < bound ∧ insertion.code.isValidChar then
      build (cursor.after insertion)
        (label.insertIdx insertion.place (Char.ofNat insertion.code)) rest
    else none

/-- The digits in the order of their values. -/
def digits : List Char := "abcdefghijklmnopqrstuvwxyz0123456789".toList

/-- The digit of a value below 36. -/
def digitChar (value : Nat) : Char :=
  digits.getD value 'a'

/-- The value of a digit in either case. -/
def digitValue? (c : Char) : Option Nat :=
  digits.idxOf? c.toLower

/-- The threshold of a position; a digit below it is the last one of its number. -/
def threshold (bias position : Nat) : Nat :=
  max 1 (min 26 (position - bias))

theorem threshold_pos (bias position : Nat) : 0 < threshold bias position := by
  -- The threshold is a maximum with one.
  simp only [threshold]; omega

/-- Divides a number by 35 until it is at most 455, and adds 36 to a sum for each division. -/
def scaleDown (sum number : Nat) : Nat × Nat :=
  if 455 < number then scaleDown (sum + 36) (number / 35) else (sum, number)
termination_by number
decreasing_by exact Nat.div_lt_self (Nat.zero_lt_of_lt (by assumption)) (by decide)

/-- The bias for the next number, from the last one and from how many characters are placed. -/
def adapt (number placed : Nat) (first : Bool) : Nat :=
  let damped := number / if first then 700 else 2
  let (sum, scaled) := scaleDown 0 (damped + damped / placed)
  sum + 36 * scaled / (scaled + 38)

/-- A number in digits from a position on. -/
def writeNumber (bias position number : Nat) : List Char :=
  let least := threshold bias position
  if number < least then [digitChar number]
  else
    let excess := number - least
    digitChar (least + excess % (36 - least)) ::
      writeNumber bias (position + 36) (excess / (36 - least))
termination_by number
decreasing_by
  have positive := threshold_pos bias position
  exact Nat.lt_of_le_of_lt (Nat.div_le_self _ _) (Nat.sub_lt_self positive (by omega))

/-- Reads a number in digits from a position on, whose weight is given; what follows is left. -/
def readNumber? (bias : Nat) : Nat → Nat → List Char → Option (Nat × List Char)
  | _, _, [] => none
  | position, weight, c :: rest => do
    let digit ← digitValue? c
    let least := threshold bias position
    if digit < least then some (digit, rest)
    else if bound ≤ weight * (36 - least) then none
    else
      let (higher, rest) ← readNumber? bias (position + 36) (weight * (36 - least)) rest
      some (digit + (36 - least) * higher, rest)

/-- Numbers in digits, one after the other. -/
def writeNumbers : Nat → Nat → Bool → List Nat → List Char
  | _, _, _, [] => []
  | bias, placed, first, number :: rest =>
    writeNumber bias 36 number ++
      writeNumbers (adapt number (placed + 1) first) (placed + 1) false rest

/-- Reads numbers in digits up to the end; the first argument bounds how many. -/
def readNumbers? : Nat → Nat → Nat → Bool → List Char → Option (List Nat)
  | _, _, _, _, [] => some []
  | 0, _, _, _, _ => none
  | fuel + 1, bias, placed, first, text => do
    let (number, rest) ← readNumber? bias 36 1 text
    let numbers ← readNumbers? fuel (adapt number (placed + 1) first) (placed + 1) false rest
    some (number :: numbers)

/-- The bias for the first number. -/
def firstBias : Nat := 72

/-- The Punycode text of a label, without the mark that announces it. -/
def encode (label : List Char) : List Char :=
  let ascii := label.filter (·.toNat < leastCode)
  let numbers := distances (.start ascii.length) (insertions label)
  ascii ++ (if ascii.isEmpty then [] else ['-']) ++
    writeNumbers firstBias ascii.length true numbers

/-- The label that a Punycode text stands for; a text that starts with its only hyphen is none. -/
def decode (text : List Char) : Option (List Char) := do
  let coded := (text.reverse.takeWhile (· != '-')).reverse
  let ascii := (text.take (text.length - coded.length)).dropLast
  if ascii.isEmpty && coded.length < text.length then none
  else
    let numbers ← readNumbers? coded.length firstBias ascii.length true coded
    build (.start ascii.length) ascii numbers

end ServiceCall.Url.Punycode
