import Mathlib.Order.Bounds.Basic
import ServiceCall.Proofs.Sequencing
import ServiceCall.Proofs.Text.Ascii

/-!
Decoding UTF-8. Bytes are decoded exactly to the text that they encode, and where they encode none,
the fault stands behind the longest text at their start.
-/

namespace ServiceCall.Utf8

/-- A byte that continues a character lies in one range. -/
theorem isContinuation_iff {b : UInt8} :
    isContinuation b = true ↔ 0x80 ≤ b.toNat ∧ b.toNat ≤ 0xBF := by
  simp [isContinuation, UInt8.le_iff_toNat_le]

/-- A second byte lies in this range too, and in a smaller one after four of the lead bytes. -/
theorem isSecond_iff {lead b : UInt8} :
    isSecond lead b = true ↔ (0x80 ≤ b.toNat ∧ b.toNat ≤ 0xBF) ∧
      (lead.toNat = 0xE0 → 0xA0 ≤ b.toNat) ∧ (lead.toNat = 0xED → b.toNat ≤ 0x9F) ∧
      (lead.toNat = 0xF0 → 0x90 ≤ b.toNat) ∧ (lead.toNat = 0xF4 → b.toNat ≤ 0x8F) := by
  unfold isSecond
  simp only [beq_iff_eq, ← UInt8.toNat_inj]
  -- Each of the four lead bytes has its own range, and the others have that of a continuation byte.
  split
  · rename_i e0
    simp [UInt8.le_iff_toNat_le, e0]
    omega
  · split
    · rename_i ed
      simp [UInt8.le_iff_toNat_le, ed]
      omega
    · split
      · rename_i f0
        simp [UInt8.le_iff_toNat_le, f0]
        omega
      · split
        · rename_i f4
          simp [UInt8.le_iff_toNat_le, f4]
          omega
        · rw [isContinuation_iff]
          simp_all

/-- The bits of a continuation byte are what it has more than the smallest one. -/
theorem payload_eq {b : UInt8} (range : 0x80 ≤ b.toNat ∧ b.toNat ≤ 0xBF) :
    payload b = b.toNat - 0x80 := by
  -- The range ends before the next multiple of sixty-four.
  unfold payload
  omega

/-- The byte sequences that stand for a character, each with the code of the character. -/
inductive Encodes : List UInt8 → Nat → Prop
  | one {a : UInt8} (lead : a.toNat < 0x80) : Encodes [a] a.toNat
  | two {a b : UInt8} (lead : 0xC2 ≤ a.toNat ∧ a.toNat ≤ 0xDF)
    (second : isContinuation b = true) :
    Encodes [a, b] (a.toNat % 32 * 64 + payload b)
  | three {a b c : UInt8} (lead : 0xE0 ≤ a.toNat ∧ a.toNat ≤ 0xEF)
    (second : isSecond a b = true) (third : isContinuation c = true) :
    Encodes [a, b, c] (a.toNat % 16 * 4096 + payload b * 64 + payload c)
  | four {a b c d : UInt8} (lead : 0xF0 ≤ a.toNat ∧ a.toNat ≤ 0xF4)
    (second : isSecond a b = true) (third : isContinuation c = true)
    (fourth : isContinuation d = true) :
    Encodes [a, b, c, d] (a.toNat % 8 * 262144 + payload b * 4096 + payload c * 64 + payload d)

/-- A character of the second range is written in two bytes. -/
theorem utf8EncodeChar_two {c : Char} (low : 0x7F < c.toNat) (high : c.toNat ≤ 0x7FF) :
    String.utf8EncodeChar c =
      [UInt8.ofNat (c.toNat / 64 % 32 + 192), UInt8.ofNat (c.toNat % 64 + 128)] :=
  (if_neg (Nat.not_le.mpr low)).trans (if_pos high)

/-- A character of the third range is written in three bytes. -/
theorem utf8EncodeChar_three {c : Char} (low : 0x7FF < c.toNat) (high : c.toNat ≤ 0xFFFF) :
    String.utf8EncodeChar c =
      [UInt8.ofNat (c.toNat / 4096 % 16 + 224), UInt8.ofNat (c.toNat / 64 % 64 + 128),
        UInt8.ofNat (c.toNat % 64 + 128)] :=
  (if_neg (by show ¬c.toNat ≤ 0x7F; omega)).trans
    ((if_neg (Nat.not_le.mpr low)).trans (if_pos high))

/-- A character of the last range is written in four bytes. -/
theorem utf8EncodeChar_four {c : Char} (low : 0xFFFF < c.toNat) :
    String.utf8EncodeChar c =
      [UInt8.ofNat (c.toNat / 262144 % 8 + 240), UInt8.ofNat (c.toNat / 4096 % 64 + 128),
        UInt8.ofNat (c.toNat / 64 % 64 + 128), UInt8.ofNat (c.toNat % 64 + 128)] :=
  (if_neg (by show ¬c.toNat ≤ 0x7F; omega)).trans
    ((if_neg (by show ¬c.toNat ≤ 0x7FF; omega)).trans (if_neg (Nat.not_le.mpr low)))

/-- A byte is the one of its own number. -/
theorem ofNat_eq {n : Nat} {b : UInt8} (same : n = b.toNat) : UInt8.ofNat n = b := by
  rw [same, UInt8.ofNat_toNat]

/-- The character of a code that is no surrogate and not too large has this code. -/
theorem toNat_ofNat {n : Nat} (valid : n < 0xD800 ∨ 0xDFFF < n ∧ n < 0x110000) :
    (Char.ofNat n).toNat = n := by
  -- Such a code is kept as it is.
  rw [Char.ofNat, dif_pos valid]
  rfl

/-- A sequence that stands for a character is how this character is written. -/
theorem Encodes.utf8EncodeChar_eq {bytes : List UInt8} {code : Nat} (known : Encodes bytes code) :
    String.utf8EncodeChar (Char.ofNat code) = bytes := by
  -- The code lies in the range for the number of the bytes, and gives each of them back.
  cases known with
  | @one a lead =>
    have code : (Char.ofNat a.toNat).toNat = a.toNat := toNat_ofNat (by omega)
    rw [utf8EncodeChar_ascii (by omega), code, ofNat_eq rfl]
  | @two a b lead second =>
    rw [isContinuation_iff] at second
    have low := payload_eq second
    have code := toNat_ofNat (n := a.toNat % 32 * 64 + payload b) (by omega)
    rw [utf8EncodeChar_two (by omega) (by omega), code, ofNat_eq (b := a) (by omega),
      ofNat_eq (b := b) (by omega)]
  | @three a b c lead second third =>
    rw [isContinuation_iff] at third
    rw [isSecond_iff] at second
    have high := payload_eq second.1
    have low := payload_eq third
    have code := toNat_ofNat (n := a.toNat % 16 * 4096 + payload b * 64 + payload c) (by omega)
    rw [utf8EncodeChar_three (by omega) (by omega), code, ofNat_eq (b := a) (by omega),
      ofNat_eq (b := b) (by omega), ofNat_eq (b := c) (by omega)]
  | @four a b c d lead second third fourth =>
    rw [isContinuation_iff] at third fourth
    rw [isSecond_iff] at second
    have high := payload_eq second.1
    have middle := payload_eq third
    have low := payload_eq fourth
    have code := toNat_ofNat
      (n := a.toNat % 8 * 262144 + payload b * 4096 + payload c * 64 + payload d) (by omega)
    rw [utf8EncodeChar_four (by omega), code, ofNat_eq (b := a) (by omega),
      ofNat_eq (b := b) (by omega), ofNat_eq (b := c) (by omega), ofNat_eq (b := d) (by omega)]

/-- A continuation byte is written for six bits of a code. -/
theorem isContinuation_ofNat (n : Nat) :
    isContinuation (UInt8.ofNat (n % 64 + 128)) = true ∧
      payload (UInt8.ofNat (n % 64 + 128)) = n % 64 := by
  -- Six bits are put behind the mark, and the mark is taken off again.
  rw [isContinuation_iff, payload, UInt8.toNat_ofNat']
  omega

/-- A character is written as a sequence that stands for it. -/
theorem encodes_utf8EncodeChar (c : Char) : Encodes (String.utf8EncodeChar c) c.toNat := by
  have valid : c.toNat < 0xD800 ∨ 0xDFFF < c.toNat ∧ c.toNat < 0x110000 := c.valid
  -- The cases are the four ranges of codes, one for each number of bytes.
  rcases Nat.lt_or_ge 0xFFFF c.toNat with astral | basic
  · have lead : (UInt8.ofNat (c.toNat / 262144 % 8 + 240)).toNat = c.toNat / 262144 + 240 := by
      rw [UInt8.toNat_ofNat']
      omega
    -- The code lies between the ranges that the two special lead bytes exclude.
    have second : isSecond (UInt8.ofNat (c.toNat / 262144 % 8 + 240))
        (UInt8.ofNat (c.toNat / 4096 % 64 + 128)) = true := by
      rw [isSecond_iff, lead, UInt8.toNat_ofNat']
      omega
    have code : (c.toNat / 262144 + 240) % 8 * 262144 + c.toNat / 4096 % 64 * 4096 +
        c.toNat / 64 % 64 * 64 + c.toNat % 64 = c.toNat := by omega
    obtain ⟨fourth, low⟩ := isContinuation_ofNat c.toNat
    obtain ⟨third, middle⟩ := isContinuation_ofNat (c.toNat / 64)
    obtain ⟨_, high⟩ := isContinuation_ofNat (c.toNat / 4096)
    have known := Encodes.four (by omega) second third fourth
    rwa [lead, high, middle, low, code, ← utf8EncodeChar_four astral] at known
  rcases Nat.lt_or_ge 0x7FF c.toNat with three | small
  · have lead : (UInt8.ofNat (c.toNat / 4096 % 16 + 224)).toNat = c.toNat / 4096 + 224 := by
      rw [UInt8.toNat_ofNat']
      omega
    -- The code is large enough for three bytes, and it is no surrogate.
    have second : isSecond (UInt8.ofNat (c.toNat / 4096 % 16 + 224))
        (UInt8.ofNat (c.toNat / 64 % 64 + 128)) = true := by
      rw [isSecond_iff, lead, UInt8.toNat_ofNat']
      omega
    have code : (c.toNat / 4096 + 224) % 16 * 4096 + c.toNat / 64 % 64 * 64 + c.toNat % 64 =
        c.toNat := by omega
    obtain ⟨third, low⟩ := isContinuation_ofNat c.toNat
    obtain ⟨_, high⟩ := isContinuation_ofNat (c.toNat / 64)
    have known := Encodes.three (by omega) second third
    rwa [lead, high, low, code, ← utf8EncodeChar_three three basic] at known
  rcases Nat.lt_or_ge 0x7F c.toNat with two | ascii
  · have lead : (UInt8.ofNat (c.toNat / 64 % 32 + 192)).toNat = c.toNat / 64 + 192 := by
      rw [UInt8.toNat_ofNat']
      omega
    have code : (c.toNat / 64 + 192) % 32 * 64 + c.toNat % 64 = c.toNat := by omega
    obtain ⟨second, low⟩ := isContinuation_ofNat c.toNat
    have known := Encodes.two (a := UInt8.ofNat (c.toNat / 64 % 32 + 192)) (by omega) second
    rwa [lead, low, code, ← utf8EncodeChar_two two small] at known
  · have lead : (UInt8.ofNat c.toNat).toNat = c.toNat := by
      rw [UInt8.toNat_ofNat']
      omega
    have known := Encodes.one (a := UInt8.ofNat c.toNat) (by omega)
    rwa [lead, ← utf8EncodeChar_ascii (by omega)] at known

/-- The lead byte alone decides how many bytes are read. -/
theorem start_eq (lead : UInt8) (rest : List UInt8) :
    start lead rest =
      if lead.toNat < 0x80 then .char (Char.ofNat lead.toNat) 1
      else if 0xC2 ≤ lead.toNat ∧ lead.toNat ≤ 0xDF then startOfTwo lead rest
      else if 0xE0 ≤ lead.toNat ∧ lead.toNat ≤ 0xEF then startOfThree lead rest
      else if 0xF0 ≤ lead.toNat ∧ lead.toNat ≤ 0xF4 then startOfFour lead rest
      else .bad 1 := by
  -- The tests on the byte are tests on its number.
  simp [start, UInt8.lt_iff_toNat_lt, UInt8.le_iff_toNat_le]

/-- A sequence that stands for a character is read as this character, whatever comes after it. -/
theorem start_of_encodes {lead : UInt8} {tail : List UInt8} {code : Nat}
    (known : Encodes (lead :: tail) code) (rest : List UInt8) :
    start lead (tail ++ rest) = .char (Char.ofNat code) (tail.length + 1) := by
  rw [start_eq]
  -- The lead byte selects the reader, and the other bytes pass its tests one after another.
  cases known with
  | one ascii => exact if_pos ascii
  | two range second =>
    rw [if_neg (by omega), if_pos range]
    exact if_pos second
  | three range second third =>
    rw [if_neg (by omega), if_neg (by omega), if_pos range]
    exact (if_pos second).trans (if_pos third)
  | four range second third fourth =>
    rw [if_neg (by omega), if_neg (by omega), if_neg (by omega), if_pos range]
    exact (if_pos second).trans ((if_pos third).trans (if_pos fourth))

/-- After each lead byte there are second bytes. -/
theorem exists_isSecond (lead : UInt8) : ∃ second, isSecond lead second = true := by
  -- Two lead bytes exclude the smallest continuation bytes, and two others the largest ones.
  by_cases raised : lead.toNat = 0xE0 ∨ lead.toNat = 0xF0
  · refine ⟨0xA0, isSecond_iff.mpr ?_⟩
    rw [show (0xA0 : UInt8).toNat = 160 from rfl]
    omega
  · refine ⟨0x80, isSecond_iff.mpr ?_⟩
    rw [show (0x80 : UInt8).toNat = 128 from rfl]
    omega

/--
What a reader finds after a lead byte: a character, or the start of one up to the end of the bytes,
or a fault that is told by the first byte that no character goes on with.
-/
inductive Finding (lead : UInt8) (read : List UInt8 → Start) (rest : List UInt8) : Prop
  | char {tail after : List UInt8} {code : Nat} (known : Encodes (lead :: tail) code)
    (here : rest = tail ++ after) (found : read rest = .char (Char.ofNat code) (tail.length + 1))
  | cut {more : List UInt8} {code : Nat} (known : Encodes (lead :: (rest ++ more)) code)
    (found : read rest = .cut)
  | bad (n : Nat) (found : ∀ more, read (rest.take (n + 1) ++ more) = .bad (n + 1))
    (begun : n = 0 ∨ ∃ more code, Encodes (lead :: (rest.take n ++ more)) code)

/-- What is found after a lead byte that announces two bytes. -/
theorem finding_startOfTwo {lead : UInt8} (range : 0xC2 ≤ lead.toNat ∧ lead.toNat ≤ 0xDF)
    (rest : List UInt8) : Finding lead (startOfTwo lead) rest := by
  -- There is one byte to come: it is missing, or it continues the character, or it is wrong.
  have last : isContinuation 0x80 = true := by decide
  cases rest with
  | nil => exact .cut (.two range last) rfl
  | cons b after =>
    by_cases second : isContinuation b = true
    · exact .char (.two range second) rfl (if_pos second)
    · exact .bad 0 (fun _ => if_neg second) (.inl rfl)

/-- What is found after a lead byte that announces three bytes. -/
theorem finding_startOfThree {lead : UInt8} (range : 0xE0 ≤ lead.toNat ∧ lead.toNat ≤ 0xEF)
    (rest : List UInt8) : Finding lead (startOfThree lead) rest := by
  -- The bytes are looked at in turn; where one is missing, others would complete the character.
  have last : isContinuation 0x80 = true := by decide
  obtain ⟨next, allowed⟩ := exists_isSecond lead
  cases rest with
  | nil => exact .cut (.three range allowed last) rfl
  | cons b after =>
    by_cases second : isSecond lead b = true
    · cases after with
      | nil => exact .cut (.three range second last) (if_pos second)
      | cons c after =>
        by_cases third : isContinuation c = true
        · exact .char (.three range second third) rfl ((if_pos second).trans (if_pos third))
        · exact .bad 1 (fun _ => (if_pos second).trans (if_neg third))
            (.inr ⟨[0x80], _, .three range second last⟩)
    · exact .bad 0 (fun _ => if_neg second) (.inl rfl)

/-- What is found after a lead byte that announces four bytes. -/
theorem finding_startOfFour {lead : UInt8} (range : 0xF0 ≤ lead.toNat ∧ lead.toNat ≤ 0xF4)
    (rest : List UInt8) : Finding lead (startOfFour lead) rest := by
  -- The bytes are looked at in turn; where one is missing, others would complete the character.
  have last : isContinuation 0x80 = true := by decide
  obtain ⟨next, allowed⟩ := exists_isSecond lead
  cases rest with
  | nil => exact .cut (.four range allowed last last) rfl
  | cons b after =>
    by_cases second : isSecond lead b = true
    · cases after with
      | nil => exact .cut (.four range second last last) (if_pos second)
      | cons c after =>
        by_cases third : isContinuation c = true
        · cases after with
          | nil => exact .cut (.four range second third last) ((if_pos second).trans (if_pos third))
          | cons d after =>
            by_cases fourth : isContinuation d = true
            · exact .char (.four range second third fourth) rfl
                ((if_pos second).trans ((if_pos third).trans (if_pos fourth)))
            · exact .bad 2 (fun _ => (if_pos second).trans ((if_pos third).trans (if_neg fourth)))
                (.inr ⟨[0x80], _, .four range second third last⟩)
        · exact .bad 1 (fun _ => (if_pos second).trans (if_neg third))
            (.inr ⟨[0x80, 0x80], _, .four range second last last⟩)
    · exact .bad 0 (fun _ => if_neg second) (.inl rfl)

/-- What is found after any lead byte. -/
theorem finding_start (lead : UInt8) (rest : List UInt8) : Finding lead (start lead) rest := by
  -- The ranges of lead bytes are tested one after another.
  rw [show start lead = _ from funext (start_eq lead)]
  by_cases ascii : lead.toNat < 0x80
  · simp only [if_pos ascii]
    exact .char (.one ascii) rfl rfl
  simp only [if_neg ascii]
  by_cases two : 0xC2 ≤ lead.toNat ∧ lead.toNat ≤ 0xDF
  · simp only [if_pos two]
    exact finding_startOfTwo two rest
  simp only [if_neg two]
  by_cases three : 0xE0 ≤ lead.toNat ∧ lead.toNat ≤ 0xEF
  · simp only [if_pos three]
    exact finding_startOfThree three rest
  simp only [if_neg three]
  by_cases four : 0xF0 ≤ lead.toNat ∧ lead.toNat ≤ 0xF4
  · simp only [if_pos four]
    exact finding_startOfFour four rest
  simp only [if_neg four]
  exact .bad 0 (fun _ => rfl) (.inl rfl)

/-- Whether bytes are a text in UTF-8. -/
def IsText (bytes : List UInt8) : Prop :=
  bytes.toByteArray.IsValidUTF8

/-- A text in UTF-8 is the encoding of some characters. -/
theorem isText_iff {bytes : List UInt8} : IsText bytes ↔ ∃ text, encode text = bytes := by
  -- The library says the same of arrays of bytes.
  constructor
  · rintro ⟨text, written⟩
    exact ⟨text, (List.toByteArray_inj.mp written).symm⟩
  · rintro ⟨text, rfl⟩
    exact ⟨text, rfl⟩

/-- A sequence that stands for a character is decoded to it before what comes after it. -/
theorem decodeFrom_of_encodes {bytes : List UInt8} {code : Nat} (known : Encodes bytes code)
    (index : Nat) (rest : List UInt8) :
    decodeFrom index (bytes ++ rest) =
      (decodeFrom (index + bytes.length) rest).map (Char.ofNat code :: ·) := by
  -- The sequence is read as one character, and all its bytes are passed.
  cases bytes with
  | nil => cases known
  | cons lead tail =>
    rw [List.cons_append, decodeFrom, start_of_encodes known]
    simp only [Nat.add_sub_cancel, List.drop_left, List.length_cons]

/-- The encoding of a text is decoded to this text before what comes after it. -/
theorem decodeFrom_encode_append (text : List Char) (index : Nat) (rest : List UInt8) :
    decodeFrom index (encode text ++ rest) =
      (decodeFrom (index + (encode text).length) rest).map (text ++ ·) := by
  -- The induction is on the text; its first character moves the index behind its own bytes.
  induction text generalizing index with
  | nil =>
    show decodeFrom index rest = (decodeFrom index rest).map id
    cases decodeFrom index rest <;> rfl
  | cons c later ih =>
    have written : encode (c :: later) = String.utf8EncodeChar c ++ encode later := rfl
    rw [written, List.append_assoc, decodeFrom_of_encodes (encodes_utf8EncodeChar c), ih,
      Char.ofNat_toNat, List.length_append, Nat.add_assoc]
    cases decodeFrom _ rest <;> rfl

/-- A text is decoded from its encoding. -/
theorem decode_encode (text : List Char) : decode (encode text) = .ok text := by
  -- Nothing comes after the text.
  have decoded := decodeFrom_encode_append text 0 []
  rw [List.append_nil, decodeFrom] at decoded
  rw [decode, decoded]
  exact congrArg Except.ok (List.append_nil text)

/-- No sequence that stands for a character is at the start of some bytes. -/
def Stuck (bytes : List UInt8) : Prop :=
  ∀ sequence code, Encodes sequence code → ¬sequence <+: bytes

/-- Where no character stands, none stands after some of the bytes are cut off. -/
theorem Stuck.take {bytes : List UInt8} (stuck : Stuck bytes) (n : Nat) : Stuck (bytes.take n) :=
  fun sequence code known starts =>
    stuck sequence code known (starts.trans (List.take_prefix n bytes))

/-- All bytes begin with a text after which no character stands. -/
theorem exists_encode_append (bytes : List UInt8) :
    ∃ text rest, bytes = encode text ++ rest ∧ Stuck rest := by
  -- The induction is on the number of bytes; a character at their start leaves fewer of them.
  induction size : bytes.length using Nat.strongRecOn generalizing bytes with
  | ind n ih =>
    by_cases stuck : Stuck bytes
    · exact ⟨[], bytes, rfl, stuck⟩
    · simp only [Stuck, not_forall, not_not] at stuck
      obtain ⟨sequence, code, known, after, rfl⟩ := stuck
      -- A character takes one byte at least.
      have fewer : after.length < n := by
        have filled : sequence ≠ [] := by
          rintro rfl
          cases known
        have longer := List.length_pos_of_ne_nil filled
        rw [← size, List.length_append]
        omega
      obtain ⟨text, rest, rfl, stuck⟩ := ih after.length fewer after rfl
      refine ⟨Char.ofNat code :: text, rest, ?_, stuck⟩
      rw [← List.append_assoc, ← known.utf8EncodeChar_eq]
      rfl

/-- Bytes that some more bytes complete to a text. -/
def Begins (bytes : List UInt8) : Prop :=
  ∃ more, IsText (bytes ++ more)

/-- The start of a sequence that stands for a character begins a text. -/
theorem begins_of_encodes (bytes : List UInt8) {more : List UInt8} {code : Nat}
    (known : Encodes (bytes ++ more) code) : Begins bytes := by
  -- The missing bytes complete a text of one character.
  refine ⟨more, isText_iff.mpr ⟨[Char.ofNat code], ?_⟩⟩
  rw [← known.utf8EncodeChar_eq]
  exact List.append_nil _

/-- Bytes that are read as faulty from their start begin no text. -/
theorem not_begins_of_bad {lead : UInt8} {rest : List UInt8} {length : Nat}
    (faulty : ∀ more, start lead (rest ++ more) = .bad length) : ¬Begins (lead :: rest) := by
  rintro ⟨more, completed⟩
  obtain ⟨text, written⟩ := isText_iff.mp completed
  -- The whole text could be decoded, but the fault is met first.
  have decoded := decode_encode text
  rw [written, List.cons_append, decode, decodeFrom, faulty more] at decoded
  cases decoded

/--
What some bytes are as long as no character stands at their start: the start of a character, or so
many bytes of a faulty one.
-/
def Fault.Here (index : Nat) (bytes : List UInt8) : Fault → Prop
  | .incomplete place => place = index ∧ Begins bytes
  | .invalid length place =>
    place = index ∧ 0 < length ∧ ¬Begins (bytes.take (length + 1)) ∧
      (length = 1 ∨ Begins (bytes.take length))

/-- Where no character stands, decoding names the fault that is there. -/
theorem decodeFrom_of_stuck {bytes : List UInt8} (stuck : Stuck bytes) (filled : bytes ≠ [])
    (index : Nat) : ∃ fault, decodeFrom index bytes = .error fault ∧ fault.Here index bytes := by
  cases bytes with
  | nil => exact absurd rfl filled
  | cons lead rest =>
    rw [decodeFrom]
    cases finding_start lead rest with
    | @char tail after code known here _ =>
      exact absurd ⟨after, by rw [here, List.cons_append]⟩ (stuck _ code known)
    | cut known found =>
      rw [found]
      exact ⟨_, rfl, rfl, begins_of_encodes (lead :: rest) known⟩
    | bad n found begun =>
      -- The fault is told by the bytes up to the first wrong one, so the others make no difference.
      have whole := found (rest.drop (n + 1))
      rw [List.take_append_drop] at whole
      rw [whole]
      refine ⟨_, rfl, rfl, Nat.succ_pos n, not_begins_of_bad found, ?_⟩
      rcases begun with rfl | ⟨more, code, known⟩
      · exact .inl rfl
      · exact .inr (begins_of_encodes (lead :: rest.take n) known)

/-- What is decoded is written as the bytes that it was decoded from. -/
theorem encode_of_decodeFrom {index : Nat} {bytes : List UInt8} {text : List Char}
    (decoded : decodeFrom index bytes = .ok text) : encode text = bytes := by
  -- The bytes are a text and what is left after it, where decoding would fail.
  obtain ⟨read, rest, rfl, stuck⟩ := exists_encode_append bytes
  rw [decodeFrom_encode_append] at decoded
  by_cases ended : rest = []
  · subst ended
    rw [decodeFrom] at decoded
    obtain rfl : read ++ [] = text := Except.ok.inj decoded
    rw [List.append_nil, List.append_nil]
  · -- Bytes without a character are left over, and decoding fails at them.
    obtain ⟨fault, failed, _⟩ := decodeFrom_of_stuck stuck ended (index + (encode read).length)
    rw [failed] at decoded
    cases decoded

/-- Bytes are decoded to a text exactly when they are its encoding. -/
theorem decode_eq_ok_iff {bytes : List UInt8} {text : List Char} :
    decode bytes = .ok text ↔ encode text = bytes := by
  -- Decoding and encoding are each other's inverse.
  refine ⟨encode_of_decodeFrom, ?_⟩
  rintro rfl
  exact decode_encode text

/-- Bytes after a text make a text with it when they are one themselves. -/
theorem isText_encode_append {text : List Char} {rest : List UInt8} :
    IsText (encode text ++ rest) ↔ IsText rest := by
  rw [isText_iff, isText_iff]
  constructor
  · rintro ⟨whole, written⟩
    -- The whole text is decoded, and what comes after the first text is its other part.
    have decoded := decode_encode whole
    rw [written, decode, decodeFrom_encode_append] at decoded
    obtain ⟨later, found, _⟩ := map_ok_iff.mp decoded
    exact ⟨later, encode_of_decodeFrom found⟩
  · rintro ⟨later, rfl⟩
    exact ⟨text ++ later, List.flatMap_append⟩

/-- Bytes after a text begin a text with it when they begin one themselves. -/
theorem begins_encode_append {text : List Char} {rest : List UInt8} :
    Begins (encode text ++ rest) ↔ Begins rest := by
  simp only [Begins, List.append_assoc, isText_encode_append]

/-- Bytes that begin a text do so up to each place in them. -/
theorem Begins.take {bytes : List UInt8} (begins : Begins bytes) (n : Nat) :
    Begins (bytes.take n) := by
  -- What was cut off is put back before the rest that completes it.
  obtain ⟨more, completed⟩ := begins
  refine ⟨bytes.drop n ++ more, ?_⟩
  rwa [← List.append_assoc, List.take_append_drop]

/-- Bytes are no text where no character stands. -/
theorem Stuck.not_isText {bytes : List UInt8} (stuck : Stuck bytes) (filled : bytes ≠ []) :
    ¬IsText bytes := by
  -- A text is decoded, and decoding fails where no character stands.
  intro valid
  obtain ⟨text, rfl⟩ := isText_iff.mp valid
  obtain ⟨fault, failed, _⟩ := decodeFrom_of_stuck stuck filled 0
  rw [← decode, decode_encode] at failed
  cases failed

/-- A text after which no character stands is the longest one at the start of the bytes. -/
theorem isGreatest_length (text : List Char) {rest : List UInt8} (stuck : Stuck rest) :
    IsGreatest {n | n ≤ (encode text ++ rest).length ∧ IsText ((encode text ++ rest).take n)}
      (encode text).length := by
  constructor
  · refine ⟨by simp, ?_⟩
    rw [List.take_left]
    exact isText_iff.mpr ⟨text, rfl⟩
  · rintro n ⟨within, valid⟩
    -- A longer text would go on after the first one where no character stands.
    by_contra longer
    obtain ⟨k, rfl⟩ : ∃ k, n = (encode text).length + k := ⟨n - (encode text).length, by omega⟩
    rw [List.take_length_add_append, isText_encode_append] at valid
    rw [List.length_append] at within
    refine (stuck.take k).not_isText (List.ne_nil_of_length_pos ?_) valid
    rw [List.length_take]
    omega

/--
Where and how bytes fail to be a text. The fault is behind the longest text at their start. The
bytes end within a character there, or the faulty bytes are as many as begin a character, but one at
least.
-/
inductive Fault.Marks (bytes : List UInt8) : Fault → Prop
  | incomplete {index : Nat}
    (longest : IsGreatest {n | n ≤ bytes.length ∧ IsText (bytes.take n)} index)
    (within : index < bytes.length) (begins : Begins bytes) : Fault.Marks bytes (.incomplete index)
  | invalid {length index : Nat}
    (longest : IsGreatest {n | n ≤ bytes.length ∧ IsText (bytes.take n)} index)
    (positive : 0 < length) (wrong : ¬Begins (bytes.take (index + length + 1)))
    (begun : length = 1 ∨ Begins (bytes.take (index + length))) :
    Fault.Marks bytes (.invalid length index)

/-- The fault that decoding names marks the bytes. -/
theorem marks_of_decode {bytes : List UInt8} {fault : Fault}
    (failed : decode bytes = .error fault) : fault.Marks bytes := by
  obtain ⟨text, rest, rfl, stuck⟩ := exists_encode_append bytes
  -- Something is left after the text, or decoding would not have failed.
  have filled : rest ≠ [] := by
    rintro rfl
    rw [List.append_nil, decode_encode] at failed
    cases failed
  obtain ⟨found, named, here⟩ := decodeFrom_of_stuck stuck filled (encode text).length
  rw [decode, decodeFrom_encode_append, Nat.zero_add, named] at failed
  obtain rfl : found = fault := Except.error.inj failed
  have longest := isGreatest_length text stuck
  -- What was said of the bytes after the text is said of all of them.
  cases found with
  | incomplete index =>
    obtain ⟨rfl, begins⟩ := here
    refine .incomplete longest ?_ (begins_encode_append.mpr begins)
    rw [List.length_append]
    exact Nat.lt_add_of_pos_right (List.length_pos_of_ne_nil filled)
  | invalid length index =>
    obtain ⟨rfl, positive, wrong, begun⟩ := here
    refine .invalid longest positive ?_ (begun.imp_right fun begins => ?_)
    · rw [Nat.add_assoc, List.take_length_add_append, begins_encode_append]
      exact wrong
    · rw [List.take_length_add_append, begins_encode_append]
      exact begins

/-- Faulty bytes are no more than the first ones that begin no character. -/
theorem length_le_of_wrong {bytes : List UInt8} {index length size : Nat} (positive : 0 < length)
    (wrong : ¬Begins (bytes.take (index + length + 1)))
    (begun : size = 1 ∨ Begins (bytes.take (index + size))) : size ≤ length := by
  -- More bytes than that would include the wrong ones.
  rcases begun with rfl | begins
  · exact positive
  · by_contra longer
    have shorter := begins.take (index + length + 1)
    rw [List.take_take, Nat.min_eq_left (by omega)] at shorter
    exact wrong shorter

/-- At most one fault marks some bytes. -/
theorem Fault.Marks.unique {bytes : List UInt8} {fault other : Fault} (marks : fault.Marks bytes)
    (also : other.Marks bytes) : fault = other := by
  -- The longest text is at one place, and bytes with a faulty character begin no text.
  cases marks with
  | incomplete longest _ begins =>
    cases also with
    | incomplete most _ _ => rw [longest.unique most]
    | invalid _ _ wrong _ => exact absurd (begins.take _) wrong
  | invalid longest positive wrong begun =>
    cases also with
    | incomplete _ _ begins => exact absurd (begins.take _) wrong
    | invalid most many faulty part =>
      obtain rfl := longest.unique most
      rw [Nat.le_antisymm (length_le_of_wrong many faulty begun)
        (length_le_of_wrong positive wrong part)]

/-- Bytes that a fault marks are no text. -/
theorem Fault.Marks.not_isText {bytes : List UInt8} {fault : Fault} (marks : fault.Marks bytes) :
    ¬IsText bytes := by
  -- A text begins at each place of it, and it is the longest one itself.
  intro valid
  cases marks with
  | incomplete longest within _ =>
    have whole := longest.2 ⟨Nat.le_refl _, by rwa [List.take_length]⟩
    exact absurd within (Nat.not_lt.mpr whole)
  | invalid _ _ wrong _ =>
    have begins : Begins bytes := ⟨[], by rwa [List.append_nil]⟩
    exact wrong (begins.take _)

/-- Decoding names exactly the fault that marks the bytes. -/
theorem decode_eq_error_iff {bytes : List UInt8} {fault : Fault} :
    decode bytes = .error fault ↔ fault.Marks bytes := by
  -- Bytes that a fault marks are not decoded, and no other fault marks them.
  refine ⟨marks_of_decode, fun marks => ?_⟩
  cases decoded : decode bytes with
  | ok text => exact absurd (isText_iff.mpr ⟨text, decode_eq_ok_iff.mp decoded⟩) marks.not_isText
  | error other => rw [(marks_of_decode decoded).unique marks]

end ServiceCall.Utf8
