import Mathlib.Data.List.Basic
import ServiceCall.Proofs.Url.Domain
import ServiceCall.Url.Ipv4
import ServiceCall.Url.Ipv6

/-!
The texts of IP addresses. An IPv4 address is read from its own text, a part of a name that starts
with a letter is no number, and an IPv6 address cannot be written without a colon.
-/

namespace ServiceCall.Url

namespace Ipv4

/-- The parts between dots are changed with the characters of a text. -/
theorem parts_toLower {host : List Char} (ascii : ∀ c ∈ host, c.toNat < 0x80) :
    parts (host.map Char.toLower) = (parts host).map (List.map Char.toLower) := by
  have cut : Text.splitAll (· == '.') (host.map Char.toLower) =
      (Text.splitAll (· == '.') host).map (List.map Char.toLower) :=
    Text.splitAll_map fun c member => Domain.isDot_toLower (ascii c member)
  -- An empty piece at the end stays empty, so the same parts are left.
  have last : (((Text.splitAll (· == '.') host).map (List.map Char.toLower)).getLast? == some []) =
      ((Text.splitAll (· == '.') host).getLast? == some []) := by
    rw [List.getLast?_map]
    cases (Text.splitAll (· == '.') host).getLast? with
    | none => rfl
    | some piece => cases piece <;> rfl
  simp only [parts, cut, List.length_map, last]
  split
  · exact (List.map_dropLast ..).symm
  · rfl

/-- Where the first character is no digit of a base, there is no number in it. -/
theorem readDigits_cons_of_not_digit {base : Nat} {first : Char}
    (large : ∀ value, Text.hexValue? first = some value → base ≤ value) (rest : List Char) :
    readDigits base (first :: rest) = .notANumber := by
  -- The first character has no value, or one that is too large for the base.
  have start : (do
      let value ← some 0
      let digit ← Text.hexValue? first
      if digit < base then some (value * base + digit) else none) = none := by
    cases read : Text.hexValue? first with
    | none => rfl
    | some value => exact if_neg (Nat.not_lt.mpr (large value read))
  -- What follows cannot mend a reading that has failed.
  rw [readDigits, List.foldl_cons, start, List.foldl_fixed' fun _ => rfl]

/-- A letter in lower case comes after the first of them. -/
theorem le_of_isLower {c : Char} (letter : c.isLower = true) : 'a'.toNat ≤ c.toNat := by
  -- The class of letters is a range of code points, of which this is the lower end.
  have range : c.isLower = (decide ('a'.val ≤ c.val) && decide (c.val ≤ 'z'.val)) := rfl
  rw [range, Bool.and_eq_true, decide_eq_true_eq] at letter
  exact UInt32.le_iff_toNat_le.mp letter.1

/-- A part that starts with a letter in lower case is no number. -/
theorem readPart_letter {first : Char} (letter : first.isLower = true) (rest : List Char) :
    readPart (first :: rest) = .notANumber := by
  -- Letters in lower case come after all digits.
  have beyond : ¬first ≤ '9' := fun small =>
    absurd (Nat.le_trans (le_of_isLower letter) (UInt32.le_iff_toNat_le.mp small)) (by decide)
  have large : ∀ value, Text.hexValue? first = some value → 10 ≤ value := by
    intro value read
    unfold Text.hexValue? at read
    split at read
    · rename_i digit
      exact absurd digit.2 beyond
    · -- The letters that are digits come after the ten decimal ones.
      split at read
      · have := Option.some.inj read
        omega
      · split at read
        · have := Option.some.inj read
          omega
        · cases read
  -- No base but ten is announced, as there is no zero in front.
  have nonzero : first ≠ '0' := fun zero => beyond (zero ▸ by decide)
  unfold readPart
  split
  · rename_i none_left
    cases none_left
  · rename_i zero
    exact absurd (List.cons.inj zero).1 nonzero
  · rename_i zero
    exact absurd (List.cons.inj zero).1 nonzero
  · rename_i zero
    exact absurd (List.cons.inj zero).1 nonzero
  · exact readDigits_cons_of_not_digit large rest

/-- The text of a byte is a part that reads as the byte. -/
theorem readPart_byte : ∀ byte < 256, readPart (toString byte).toList = .number byte := by
  decide +kernel

/-- The text of a number has digits and nothing else. -/
theorem isDigit_of_mem_toString {number : Nat} {c : Char} (member : c ∈ (toString number).toList) :
    c.isDigit = true := by
  -- The text of a number is made of the digits of its base.
  rw [Nat.toString_eq_ofList_toDigits, String.toList_ofList] at member
  exact Nat.isDigit_of_mem_toDigits (by decide) (by decide) member

/-- The text of a byte of an address, counted from its end. -/
def byteText (address : UInt32) (shift : Nat) : List Char :=
  (toString (address.toNat >>> (8 * shift) % 256)).toList

/-- The text of a byte of an address reads as the byte. -/
theorem readPart_byteText (address : UInt32) (shift : Nat) :
    readPart (byteText address shift) = .number (address.toNat >>> (8 * shift) % 256) :=
  readPart_byte _ (Nat.mod_lt _ (by decide))

/-- The text of a byte of an address is not empty. -/
theorem byteText_ne_nil (address : UInt32) (shift : Nat) : byteText address shift ≠ [] := by
  -- An empty part would be no number.
  intro empty
  have read := readPart_byteText address shift
  rw [empty] at read
  cases read

/-- The text of a byte of an address has no dot in it. -/
theorem dot_not_mem_byteText (address : UInt32) (shift : Nat) : '.' ∉ byteText address shift :=
  fun found => absurd (isDigit_of_mem_toString found) (by decide)

/-- The text of an address has the texts of its bytes between dots. -/
theorem toList_text (address : UInt32) :
    (text address).toList = byteText address 3 ++ '.' :: (byteText address 2 ++ '.' ::
      (byteText address 1 ++ '.' :: byteText address 0)) := by
  simp [text, byteText, String.toList_append]

/-- The text of an address has digits and dots and nothing else. -/
theorem isDigit_or_dot_of_mem_text {address : UInt32} {c : Char}
    (member : c ∈ (text address).toList) : c.isDigit = true ∨ c = '.' := by
  -- Each of the four parts has digits only.
  have digit : ∀ shift, c ∈ byteText address shift → c.isDigit = true :=
    fun shift => isDigit_of_mem_toString
  simp only [toList_text, List.mem_append, List.mem_cons] at member
  rcases member with three | dot | two | dot | one | dot | zero
  · exact .inl (digit 3 three)
  · exact .inr dot
  · exact .inl (digit 2 two)
  · exact .inr dot
  · exact .inl (digit 1 one)
  · exact .inr dot
  · exact .inl (digit 0 zero)

/-- The parts of the text of an address are those of its bytes. -/
theorem parts_text (address : UInt32) :
    parts (text address).toList =
      [byteText address 3, byteText address 2, byteText address 1, byteText address 0] := by
  have absent := dot_not_mem_byteText address
  -- The text is cut at its dots, of which the parts have none.
  have cut : Text.splitAll (· == '.') (text address).toList =
      [byteText address 3, byteText address 2, byteText address 1, byteText address 0] := by
    rw [toList_text, Text.splitAll_append (absent 3), Text.splitAll_append (absent 2),
      Text.splitAll_append (absent 1), Text.splitAll_of_not_mem (absent 0)]
  -- The last part is not empty, so there is no dot at the end.
  simp [parts, cut, byteText_ne_nil]

/-- The text of an address ends in a number. -/
theorem endsInNumber_text (address : UInt32) : endsInNumber (text address).toList = true := by
  -- The last part is made of digits, and there is one at least.
  have digits : (byteText address 0).all Char.isDigit = true :=
    List.all_eq_true.mpr fun c => isDigit_of_mem_toString
  rw [endsInNumber, parts_text]
  cases last : byteText address 0 with
  | nil => exact absurd last (byteText_ne_nil address 0)
  | cons first rest =>
    rw [last] at digits
    simp [digits]

/-- An address is read from its text. -/
theorem parse_text (address : UInt32) : parse (text address).toList = .ok address := by
  have small := address.toNat_lt
  -- The four bytes at their places make up the number they were taken from.
  have whole : combine 4 [address.toNat >>> 24 % 256, address.toNat >>> 16 % 256,
      address.toNat >>> 8 % 256, address.toNat % 256] = some address.toNat := by
    simp only [combine, Nat.mod_lt _ (by decide : 0 < 256), if_true]
    simp [Nat.shiftLeft_eq, Nat.shiftRight_eq_div_pow]
    omega
  rw [parse, parts_text]
  simp [readPart_byteText, whole]

end Ipv4

namespace Ipv6

/-- What is left after some digits was there before. -/
theorem readHex_subset (limit : Nat) (text : List Char) : (readHex limit text).2.2 ⊆ text := by
  -- The induction is on the digits that may still be read.
  induction limit generalizing text with
  | zero => exact List.Subset.refl text
  | succ limit ih =>
    cases text with
    | nil => exact List.nil_subset _
    | cons c rest =>
      rw [readHex]
      -- Either the character is no digit and is left, or the rest is read on from it.
      split
      · exact List.Subset.refl _
      · exact List.subset_cons_of_subset c (ih rest)

/-- Four numbers between dots fill two pieces. -/
theorem length_readDotted {text : List Char} {two : List Nat} (read : readDotted text = some two) :
    two.length = 2 := by
  -- Each number is followed by what the next one needs, or the reading fails.
  simp only [readDotted, Option.bind_eq_bind] at read
  obtain ⟨a, -, read⟩ := Option.bind_eq_some_iff.mp read
  split at read
  · obtain ⟨b, -, read⟩ := Option.bind_eq_some_iff.mp read
    split at read
    · obtain ⟨c, -, read⟩ := Option.bind_eq_some_iff.mp read
      split at read
      · obtain ⟨d, -, read⟩ := Option.bind_eq_some_iff.mp read
        split at read
        · obtain rfl := Option.some.inj read
          rfl
        · cases read
      · cases read
    · cases read
  · cases read

/-- Text without a colon is read as two pieces at most, and no zeros are left out. -/
theorem readPieces_of_no_colon {fuel : Nat} {text : List Char} (absent : ':' ∉ text)
    {reading : Reading} (read : readPieces fuel text {} = some reading) :
    reading.gap = none ∧ reading.pieces.length ≤ 2 := by
  -- Another step would need a colon, so there is only the first one.
  cases fuel with
  | zero => cases read
  | succ fuel =>
    unfold readPieces at read
    split at read
    · -- Nothing is left to read.
      obtain rfl := Option.some.inj read
      exact ⟨rfl, Nat.zero_le 2⟩
    · split at read
      · cases read
      · split at read
        · exact absurd List.mem_cons_self absent
        · have left := readHex_subset 4 text
          generalize readHex 4 text = result at read left
          obtain ⟨value, count, after⟩ := result
          dsimp only at read left
          -- What follows the digits is a dot of an IPv4 part, a colon, or the end.
          split at read
          · split at read
            · cases read
            · obtain ⟨two, dotted, rfl⟩ := Option.map_eq_some_iff.mp read
              exact ⟨rfl, by simp [length_readDotted dotted]⟩
          · exact absurd (left List.mem_cons_self) absent
          · obtain rfl := Option.some.inj read
            exact ⟨rfl, by simp⟩
          · cases read

/-- The text of an address has a colon in it. -/
theorem colon_mem_of_parse {text : List Char} {pieces : List Nat}
    (read : parse text = .ok pieces) : ':' ∈ text := by
  by_contra absent
  unfold parse at read
  split at read
  · exact absent List.mem_cons_self
  · exact absent List.mem_cons_self
  · -- All that was read was read by a single step.
    dsimp only at read
    split at read
    · rename_i completed
      obtain ⟨reading, begun, full⟩ := Option.bind_eq_some_iff.mp completed
      obtain ⟨whole, few⟩ := readPieces_of_no_colon absent begun
      -- Two pieces are not all eight, and nothing stands for the others.
      rw [Reading.complete, whole] at full
      exact absurd full (by simp; omega)
    · cases read

end Ipv6

end ServiceCall.Url
