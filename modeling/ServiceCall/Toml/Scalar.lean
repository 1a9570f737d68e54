import ServiceCall.Toml.Token
import ServiceCall.Toml.Value

/-! TOML numbers, truth values, dates and times. -/

namespace ServiceCall.Toml

/-- Cuts off the digits that follow a digit; any two digits may have one underscore between them. -/
def moreDigits (isDigit : Char → Bool) : List Char → List Char × List Char
  | '_' :: d :: rest =>
    if isDigit d then
      let (digits, after) := moreDigits isDigit rest
      (d :: digits, after)
    else ([], '_' :: d :: rest)
  | c :: rest =>
    if isDigit c then
      let (digits, after) := moreDigits isDigit rest
      (c :: digits, after)
    else ([], c :: rest)
  | [] => ([], [])

/-- Reads at least one digit, with the digits that follow it. -/
def readDigits (isDigit : Char → Bool) : List Char → Option (List Char × List Char)
  | c :: rest =>
    if isDigit c then
      let (digits, after) := moreDigits isDigit rest
      some (c :: digits, after)
    else none
  | [] => none

/-- The value of digits in a base. -/
def valueIn (base : Nat) (digits : List Char) : Nat :=
  digits.foldl (fun value c => value * base + (Text.hexValue? c).getD 0) 0

/-- Reads the digits before a point; a zero stands alone. -/
def readWhole : List Char → Option (List Char × List Char)
  | '0' :: rest => some (['0'], rest)
  | text => readDigits Char.isDigit text

/-- Reads a sign, if there is one: whether it is a minus, and the text after it. -/
def readSign : List Char → Bool × List Char
  | '+' :: rest => (false, rest)
  | '-' :: rest => (true, rest)
  | text => (false, text)

/-- The least number that is rounded to infinity as a double. -/
def doubleLimit : Nat := (1 <<< 1024) - (1 <<< 970)

/-- Whether a number with a power of ten is rounded to infinity as a double. -/
def overflowsDouble (digits : Nat) (exponent : Int) : Bool :=
  if digits = 0 then false
  else
    let size : Int := (Nat.toDigits 10 digits).length + exponent
    if 400 < size then true
    else if size < 300 then false
    else if 0 ≤ exponent then doubleLimit ≤ digits * Nat.pow 10 exponent.toNat
    else doubleLimit * Nat.pow 10 (-exponent).toNat ≤ digits

/-- Reads an exponent after its mark. -/
def readExponent (text : List Char) : Option (Int × List Char) :=
  let (negative, text) := readSign text
  (readDigits Char.isDigit text).map fun (digits, rest) =>
    let size : Int := valueIn 10 digits
    (if negative then -size else size, rest)

/-- Reads an exponent with its mark, or takes it for zero when there is no mark. -/
def readOptionalExponent (text : List Char) : Option (Int × List Char) :=
  match text with
  | 'e' :: rest => readExponent rest
  | 'E' :: rest => readExponent rest
  | _ => some (0, text)

/-- A float as written, unless it is too large; below zero there is no limit. -/
def floatOf? (negative : Bool) (digits : List Char) (exponent : Int) (rest : List Char) :
    Option (Value × List Char) :=
  if !negative && overflowsDouble (valueIn 10 digits) exponent then none
  else
    let sign := if negative then "-" else ""
    some (.float (sign ++ String.ofList digits ++ "e" ++ toString exponent), rest)

/-- An integer that fits into 64 bits. -/
def integerOf? (value : Int) (rest : List Char) : Option (Value × List Char) :=
  if Int64.minValue.toInt ≤ value ∧ value ≤ Int64.maxValue.toInt then some (.integer value, rest)
  else none

/-- Reads a decimal integer or a float. -/
def readDecimal (text : List Char) : Option (Value × List Char) := do
  let (negative, unsigned) := readSign text
  let (whole, rest) ← readWhole unsigned
  match rest with
  | '.' :: rest =>
    let (fraction, rest) ← readDigits Char.isDigit rest
    let (exponent, rest) ← readOptionalExponent rest
    floatOf? negative (whole ++ fraction) (exponent - fraction.length) rest
  | c :: _ =>
    if c = 'e' ∨ c = 'E' then
      let (exponent, rest) ← readOptionalExponent rest
      floatOf? negative whole exponent rest
    else
      let value : Int := valueIn 10 whole
      integerOf? (if negative then -value else value) rest
  | [] =>
    let value : Int := valueIn 10 whole
    integerOf? (if negative then -value else value) rest

/-- Whether a character is a digit of a base up to sixteen. -/
def isDigitOf (base : Nat) (c : Char) : Bool :=
  match Text.hexValue? c with
  | some d => d < base
  | none => false

/-- Reads the digits of an integer whose base was announced. -/
def readInBase (base : Nat) (text : List Char) : Option (Value × List Char) := do
  let (digits, rest) ← readDigits (isDigitOf base) text
  integerOf? (valueIn base digits) rest

/-- Reads an integer or a float. -/
def readNumber (text : List Char) : Option (Value × List Char) :=
  let unsigned := (readSign text).2
  match text with
  | '0' :: 'x' :: rest => readInBase 16 rest
  | '0' :: 'o' :: rest => readInBase 8 rest
  | '0' :: 'b' :: rest => readInBase 2 rest
  | _ =>
    match unsigned with
    | 'i' :: 'n' :: 'f' :: rest => some (.float "inf", rest)
    | 'n' :: 'a' :: 'n' :: rest => some (.float "nan", rest)
    | _ => readDecimal text

/-- Reads exactly some decimal digits as a number. -/
def readFixed (count : Nat) (text : List Char) : Option (Nat × List Char) :=
  let digits := text.take count
  if digits.length = count ∧ digits.all Char.isDigit then
    some (valueIn 10 digits, text.drop count)
  else none

/-- The text after a character that must stand at its start. -/
def expect? (c : Char) : List Char → Option (List Char)
  | d :: rest => if c = d then some rest else none
  | [] => none

/-- The number of days in a month. -/
def daysIn (year month : Nat) : Nat :=
  if month = 2 then
    if year % 4 = 0 ∧ (year % 100 ≠ 0 ∨ year % 400 = 0) then 29 else 28
  else if month = 4 ∨ month = 6 ∨ month = 9 ∨ month = 11 then 30
  else 31

/-- The text after a date. -/
def skipDate? (text : List Char) : Option (List Char) := do
  let (year, rest) ← readFixed 4 text
  let rest ← expect? '-' rest
  let (month, rest) ← readFixed 2 rest
  let rest ← expect? '-' rest
  let (day, rest) ← readFixed 2 rest
  if 1 ≤ month ∧ month ≤ 12 ∧ 1 ≤ day ∧ day ≤ daysIn year month then some rest else none

/-- The text after an hour and a minute. -/
def skipMinutes? (text : List Char) : Option (List Char) := do
  let (hour, rest) ← readFixed 2 text
  let rest ← expect? ':' rest
  let (minute, rest) ← readFixed 2 rest
  if hour ≤ 23 ∧ minute ≤ 59 then some rest else none

/-- The text after a time of day; a leap second and a fraction may be given. -/
def skipTime? (text : List Char) : Option (List Char) := do
  let rest ← skipMinutes? text
  let rest ← expect? ':' rest
  let (second, rest) ← readFixed 2 rest
  if 60 < second then none
  else match rest with
    | '.' :: fraction =>
      let digits := fraction.takeWhile Char.isDigit
      if digits.isEmpty then none else some (fraction.drop digits.length)
    | _ => some rest

/-- The text after an offset from universal time, if there is one; a broken one is refused. -/
def skipOffset? (text : List Char) : Option (List Char) :=
  match text with
  | 'Z' :: rest => some rest
  | 'z' :: rest => some rest
  | '+' :: rest => skipMinutes? rest
  | '-' :: rest => skipMinutes? rest
  | _ => some text

/-- The text after the time that may follow a date. -/
def skipTimeOfDate? (text : List Char) : Option (List Char) :=
  match text with
  | separator :: rest =>
    if separator = 'T' ∨ separator = 't' ∨ separator = ' ' then
      match skipTime? rest with
      | some rest => skipOffset? rest
      | none => some text
    else some text
  | [] => some []

/-- Reads a date, a time, or both. -/
def readDate (text : List Char) : Option (Value × List Char) :=
  let rest := match readFixed 4 text with
    | some (_, '-' :: _) => (skipDate? text).bind skipTimeOfDate?
    | _ => skipTime? text
  rest.map fun rest => (.date (String.ofList (text.take (text.length - rest.length))), rest)

/-- Whether a text starts with digits as a date or a time does. -/
def startsDate (text : List Char) : Bool :=
  let follows (count : Nat) (sign : Char) : Bool :=
    match readFixed count text with
    | some (_, c :: _) => c == sign
    | _ => false
  follows 4 '-' || follows 2 ':'

/-- Reads a value that is no string and holds no other values. -/
def readScalar (text : List Char) : Option (Value × List Char) :=
  match text with
  | 't' :: 'r' :: 'u' :: 'e' :: rest => some (.boolean true, rest)
  | 'f' :: 'a' :: 'l' :: 's' :: 'e' :: rest => some (.boolean false, rest)
  | _ => if startsDate text then readDate text else readNumber text

end ServiceCall.Toml
