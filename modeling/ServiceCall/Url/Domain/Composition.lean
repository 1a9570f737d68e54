import ServiceCall.Url.Domain.CompositionTable

/-!
The composed form of text. Characters are taken apart, the marks after each of them are put in the
order of their combining classes, and what composes is put together again. Only the characters that
domains can have are considered, because the others are refused or replaced before.
-/

namespace ServiceCall.Url.Domain

/-- The combining class of a character, zero for those that start a sequence. -/
def combiningClass (c : Char) : Nat :=
  if c.toNat < 0x300 then 0
  else match combiningTable.get? c with
    | some (cls :: _) => cls
    | _ => 0

/-- The first syllable that is composed of other letters by its place alone. -/
def firstSyllable : Nat := 0xAC00

/-- The number of those syllables. -/
def syllableCount : Nat := 11172

/-- The letters of a syllable: a consonant, a vowel, and a final consonant if there is one. -/
def syllableLetters (c : Char) : List Char :=
  let place := c.toNat - firstSyllable
  [Char.ofNat (0x1100 + place / 588), Char.ofNat (0x1161 + place % 588 / 28)] ++
    if place % 28 = 0 then [] else [Char.ofNat (0x11A7 + place % 28)]

/-- Takes a character apart; the first argument bounds how often a part is taken apart again. -/
def takeApart : Nat → Char → List Char
  | 0, c => [c]
  | steps + 1, c =>
    if c.toNat < 0x80 then [c]
    else if firstSyllable ≤ c.toNat ∧ c.toNat < firstSyllable + syllableCount then syllableLetters c
    else match composedTable.get? c with
      | some [base, mark] => takeApart steps (Char.ofNat base) ++ [Char.ofNat mark]
      | _ => [c]

/-- Puts a character in front of an ordered text, behind the marks of a lower class. -/
def place (c : Char) : List Char → List Char
  | [] => [c]
  | d :: rest =>
    if 0 < combiningClass d ∧ combiningClass d < combiningClass c then d :: place c rest
    else c :: d :: rest

/-- A text with the marks after each character in the order of their classes. -/
def ordered (text : List Char) : List Char :=
  text.foldr place []

/-- The syllable of two letters, or of a syllable without a final consonant and that consonant. -/
def syllable? (base next : Nat) : Option Char :=
  if 0x1100 ≤ base ∧ base < 0x1113 ∧ 0x1161 ≤ next ∧ next < 0x1176 then
    some (Char.ofNat (firstSyllable + ((base - 0x1100) * 21 + (next - 0x1161)) * 28))
  else if firstSyllable ≤ base ∧ base < firstSyllable + syllableCount ∧
      (base - firstSyllable) % 28 = 0 ∧ 0x11A7 < next ∧ next < 0x11C3 then
    some (Char.ofNat (base + (next - 0x11A7)))
  else none

/-- The character that two characters compose. -/
def composite? (base next : Char) : Option Char :=
  if next.toNat < 0x300 then none
  else (syllable? base.toNat next.toNat).orElse fun _ =>
    (composedTable.find? fun entry =>
      entry.numbers.map (·.start) = [base.toNat, next.toNat]).map fun entry =>
        Char.ofNat entry.run.first

/--
Composes a character with those after it. The marks that did not compose are kept in reverse, and
a mark composes only if the last one kept is of a lower class.
-/
def composeAfter (base : Char) (kept : List Char) : List Char → List Char
  | [] => base :: kept.reverse
  | c :: rest =>
    let blocked := kept.head?.any fun last => combiningClass c ≤ combiningClass last
    match if blocked then none else composite? base c with
    | some composed => composeAfter composed kept rest
    | none =>
      if combiningClass c = 0 then base :: kept.reverse ++ composeAfter c [] rest
      else composeAfter base (c :: kept) rest

/-- Composes an ordered text; marks at its start have nothing to compose with. -/
def composeOrdered : List Char → List Char
  | [] => []
  | c :: rest =>
    if combiningClass c = 0 then composeAfter c [] rest else c :: composeOrdered rest

/-- The composed form of a text. -/
def compose (text : List Char) : List Char :=
  -- No composed character has more than four parts.
  composeOrdered (ordered (text.flatMap (takeApart 4)))

end ServiceCall.Url.Domain
