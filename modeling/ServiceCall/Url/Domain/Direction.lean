import ServiceCall.Url.Domain.MarkTable

/-!
Labels in scripts written from right to left. As soon as one label of a domain has such a character,
every label must keep to one direction, so that the domain reads in one way only.
-/

namespace ServiceCall.Url.Domain

/-- What the direction of a label can hang on. -/
inductive Direction where
  | leftToRight
  | rightToLeft
  | number
  | arabicNumber
  | neutral
  | mark
  deriving DecidableEq, Repr

/-- The letters written from right to left. -/
def rightToLeftTable : Text.Table := .ofLines [
  "5BE 5C0 5C3 5C6 5D0-5F4 608 60B 60D 61B-64A 66D-66F 671-6D5 6E5-6E6 6EE-6EF 6FA-710",
  "712-72F 74D-7A5 7B1-7EA 7F4-7F5 7FA 7FE-815 81A 824 828 830-858 85E-88F 8A0-8C9 FBB2-FBD2",
  "FD90-FDCE FE73 10800-1091B 10920-10A00 10A10-10A35 10A40-10AE4 10AEB-10B35 10B40-10D23",
  "10D40-10D4F 10D6E-10D8F 10E80-10EA9 10EAD-10ED8 10F00-10F45 10F51-10F81 10F86-10FF6",
  "1E800-1E8CF 1E922-1E943 1E94B-1ED3D"]

/-- The characters beyond ASCII that are written either way. -/
def neutralTable : Text.Table := .ofLines [
  "A1-D7 F7 2B9-2BA 2C2-2CF 2D2-2ED 2EF-2FF 375 3F6 58A-58F 606-607 609-60A 60C 60E-60F 66A",
  "6DE 6E9 7F6-7F9 9F2-9F3 9FB AF1 BF3-BFA C78-C7E E3F F3A-F3D 1390-1399 1400 169B-169C 17DB",
  "17F0-180A 1940-1945 19DE-19FF 200C-20C1 2104-214D 218A-2335 237B-2394 2396-2426 2440-26AB",
  "26AD-27FF 2900-2B95 2B97-2BFF 2CE5-2CEA 2CF9-2CFF 2E00-3004 3008-3020 3030 3037 303D-303F",
  "30A0 30FB 31C0-31E5 4DC0-4DFF A490-A4C6 A60D-A60F A673 A67E-A67F A700-A721 A788 A828-A82B",
  "A838-A839 A874-A877 AB6A-AB6B FD3E-FD4F FDCF-FDFF FE45-FE46 10101 10140-1018C 10190-101A0",
  "1091F 10B39-10B3F 11052-11065 11660-1166C 11FD5-11FF1 16FE2 1CC00-1CEF0 1D1E9-1D241 1D245",
  "1D300-1D356 1E2FF 1E5FF 1EEF0-1F12F 1F16D-1F16F 1F1AD 1F260-1FBFA"]

/-- The digits beyond ASCII that are written as numbers in either direction. -/
def numberTable : Text.Table := .ofLines ["6F0-6F9 102E1-102FB"]

/-- The digits written as Arabic numbers. -/
def arabicNumberTable : Text.Table := .ofLines ["660-669 66B-66C 10D30-10D39 10E60-10E7E"]

/-- The marks that count as letters written from left to right. -/
def strongMarkTable : Text.Table := .ofLines ["CBF CC6 11A07-11A08 11C3F"]

/-- The direction of a character. -/
def directionOf (c : Char) : Direction :=
  if c.toNat < 0x80 then
    if c.isAlpha then .leftToRight else if c.isDigit then .number else .neutral
  else if rightToLeftTable.contains c then .rightToLeft
  else if arabicNumberTable.contains c then .arabicNumber
  else if numberTable.contains c then .number
  else if neutralTable.contains c then .neutral
  else if nonspacingTable.contains c && !strongMarkTable.contains c then .mark
  else .leftToRight

/-- Whether a label has a character that asks for a check of the whole domain. -/
def isRightToLeft (label : List Char) : Bool :=
  label.any fun c => directionOf c == .rightToLeft || directionOf c == .arabicNumber

/-- A label from left to right has nothing of the other direction and ends in a letter or digit. -/
def keepsLeftToRight (directions : List Direction) : Bool :=
  directions.all (fun d => d != .rightToLeft && d != .arabicNumber) &&
    match (directions.reverse.dropWhile (· == .mark)).head? with
    | some last => last == .leftToRight || last == .number
    | none => true

/--
A label from right to left holds no letter of the other direction, ends in a letter or a number, and
does not mix the two kinds of numbers.
-/
def keepsRightToLeft (directions : List Direction) : Bool :=
  directions.all (· != .leftToRight) &&
    !(directions.contains .number && directions.contains .arabicNumber) &&
    match (directions.reverse.dropWhile (· == .mark)).head? with
    | some last => last != .neutral
    | none => true

/-- Whether a label keeps to the direction of its first character, which must be a letter. -/
def keepsDirection (label : List Char) : Bool :=
  match label.map directionOf with
  | [] => true
  | .leftToRight :: rest => keepsLeftToRight (.leftToRight :: rest)
  | .rightToLeft :: rest => keepsRightToLeft (.rightToLeft :: rest)
  | _ => false

/-- Whether the labels of a domain can be read in one way only. -/
def directionsFit (labels : List (List Char)) : Bool :=
  !labels.any isRightToLeft || labels.all keepsDirection

end ServiceCall.Url.Domain
