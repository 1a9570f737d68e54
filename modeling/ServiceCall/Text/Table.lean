import ServiceCall.Text.Hex
import ServiceCall.Text.Split

/-!
Tables of characters, kept as text. The entries stand between blanks. An entry is one code in
hexadecimal, or the first and the last code of a run: after a hyphen every code of the run is meant,
after a slash every second one. An arrow leads to what the codes are assigned, numbers between dots;
a number with a plus sign grows along with the codes of its run.
-/

namespace ServiceCall.Text

/-- The codes from a first to a last one, each a step after the one before it. -/
structure CodeRun where
  first : Nat
  last : Nat
  step : Nat
  deriving DecidableEq, Repr

/-- Whether a run has a code. -/
def CodeRun.contains (run : CodeRun) (code : Nat) : Bool :=
  run.first ≤ code && code ≤ run.last && (code - run.first) % run.step == 0

/-- One number assigned to a run, which may grow along with the codes. -/
structure Assigned where
  start : Nat
  grows : Bool
  deriving DecidableEq, Repr

/-- The codes of a run with the numbers assigned to them. -/
structure TableEntry where
  run : CodeRun
  numbers : List Assigned
  deriving DecidableEq, Repr

/-- The numbers assigned to one code of an entry. -/
def TableEntry.numbersOf (entry : TableEntry) (code : Nat) : List Nat :=
  entry.numbers.map fun number =>
    if number.grows then number.start + (code - entry.run.first) else number.start

/-- A table of characters. -/
abbrev Table := List TableEntry

namespace Table

/-- Reads a hexadecimal number. -/
def readNumber (digits : List Char) : Nat :=
  digits.foldl (fun value c => value * 16 + (hexValue? c).getD 0) 0

/-- Reads the codes of an entry. -/
def readRun (text : List Char) : CodeRun :=
  match splitFirst? '-' text, splitFirst? '/' text with
  | some (first, last), _ => ⟨readNumber first, readNumber last, 1⟩
  | none, some (first, last) => ⟨readNumber first, readNumber last, 2⟩
  | none, none => ⟨readNumber text, readNumber text, 1⟩

/-- Reads one assigned number. -/
def readAssigned (text : List Char) : Assigned :=
  if text.getLast? = some '+' then ⟨readNumber text.dropLast, true⟩ else ⟨readNumber text, false⟩

/-- Reads one entry. -/
def readEntry (text : List Char) : TableEntry :=
  match splitFirst? '>' text with
  | some (codes, numbers) => ⟨readRun codes, (splitAll (· == '.') numbers).map readAssigned⟩
  | none => ⟨readRun text, []⟩

/-- Reads a table from lines. -/
def ofLines (lines : List String) : Table :=
  lines.flatMap fun line => (splitAll (· == ' ') line.toList).map readEntry

/-- Whether a table has a character. -/
def contains (table : Table) (c : Char) : Bool :=
  table.any (·.run.contains c.toNat)

/-- The numbers a table assigns to a character. -/
def get? (table : Table) (c : Char) : Option (List Nat) :=
  (table.find? (·.run.contains c.toNat)).map (·.numbersOf c.toNat)

end Table

end ServiceCall.Text
