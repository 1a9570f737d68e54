/-!
Reading bytes as UTF-8. A refused text names the place and the kind of its first fault; a lenient
reading puts a replacement character for each fault and goes on after it.
-/

namespace ServiceCall.Utf8

/-- The first fault of a byte sequence that is not UTF-8, with the index where it starts. -/
inductive Fault where
  | invalid (length index : Nat)
  | incomplete (index : Nat)
  deriving DecidableEq, Repr

/-- The wording of a fault. -/
def Fault.message : Fault → String
  | .invalid length index => s!"invalid utf-8 sequence of {length} bytes from index {index}"
  | .incomplete index => s!"incomplete utf-8 byte sequence from index {index}"

/-- The UTF-8 bytes of a text. -/
def encode (text : List Char) : List UInt8 :=
  text.flatMap String.utf8EncodeChar

/-- What stands at the start of a nonempty byte sequence. -/
inductive Start where
  | char (c : Char) (width : Nat)
  | bad (length : Nat)
  | cut
  deriving Repr

/-- A byte that continues a character. -/
def isContinuation (b : UInt8) : Bool :=
  0x80 ≤ b && b ≤ 0xBF

/-- The six payload bits of a continuation byte. -/
def payload (b : UInt8) : Nat :=
  b.toNat % 64

/-- The second bytes allowed after a lead byte, which keep characters short, valid and in range. -/
def isSecond (lead second : UInt8) : Bool :=
  if lead == 0xE0 then 0xA0 ≤ second && second ≤ 0xBF
  else if lead == 0xED then 0x80 ≤ second && second ≤ 0x9F
  else if lead == 0xF0 then 0x90 ≤ second && second ≤ 0xBF
  else if lead == 0xF4 then 0x80 ≤ second && second ≤ 0x8F
  else isContinuation second

/-- Reads the character after a lead byte that announces two bytes. -/
def startOfTwo (lead : UInt8) : List UInt8 → Start
  | [] => .cut
  | b :: _ =>
    if isContinuation b then .char (Char.ofNat ((lead.toNat % 32) * 64 + payload b)) 2 else .bad 1

/-- Reads the character after a lead byte that announces three bytes. -/
def startOfThree (lead : UInt8) : List UInt8 → Start
  | [] => .cut
  | b :: rest =>
    if isSecond lead b then
      match rest with
      | [] => .cut
      | c :: _ =>
        if isContinuation c then
          .char (Char.ofNat ((lead.toNat % 16) * 4096 + payload b * 64 + payload c)) 3
        else .bad 2
    else .bad 1

/-- Reads the character after a lead byte that announces four bytes. -/
def startOfFour (lead : UInt8) : List UInt8 → Start
  | [] => .cut
  | b :: rest =>
    if isSecond lead b then
      match rest with
      | [] => .cut
      | c :: rest =>
        if isContinuation c then
          match rest with
          | [] => .cut
          | d :: _ =>
            if isContinuation d then
              .char (Char.ofNat ((lead.toNat % 8) * 262144 + payload b * 4096
                + payload c * 64 + payload d)) 4
            else .bad 3
        else .bad 2
    else .bad 1

/-- Reads one character from a lead byte and the bytes after it. -/
def start (lead : UInt8) (rest : List UInt8) : Start :=
  if lead < 0x80 then .char (Char.ofNat lead.toNat) 1
  else if 0xC2 ≤ lead && lead ≤ 0xDF then startOfTwo lead rest
  else if 0xE0 ≤ lead && lead ≤ 0xEF then startOfThree lead rest
  else if 0xF0 ≤ lead && lead ≤ 0xF4 then startOfFour lead rest
  else .bad 1

/-- Decodes bytes that stand at a given index of the whole, or names the first fault. -/
def decodeFrom (index : Nat) : List UInt8 → Except Fault (List Char)
  | [] => .ok []
  | lead :: rest =>
    match start lead rest with
    | .char c width => (decodeFrom (index + width) (rest.drop (width - 1))).map (c :: ·)
    | .bad length => .error (.invalid length index)
    | .cut => .error (.incomplete index)
termination_by bytes => bytes.length
decreasing_by simp only [List.length_drop, List.length_cons]; omega

/-- Decodes bytes as UTF-8, or names the first fault. -/
def decode (bytes : List UInt8) : Except Fault (List Char) :=
  decodeFrom 0 bytes

/-- Decodes bytes, putting one replacement character for each faulty stretch. -/
def decodeLenient : List UInt8 → List Char
  | [] => []
  | lead :: rest =>
    match start lead rest with
    | .char c width => c :: decodeLenient (rest.drop (width - 1))
    | .bad length => '\uFFFD' :: decodeLenient (rest.drop (length - 1))
    | .cut => ['\uFFFD']
termination_by bytes => bytes.length
decreasing_by all_goals (simp only [List.length_drop, List.length_cons]; omega)

end ServiceCall.Utf8
