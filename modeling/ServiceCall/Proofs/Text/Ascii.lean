import Mathlib.Data.List.Basic
import ServiceCall.Text.Split
import ServiceCall.Text.Utf8

/-!
Text cut into pieces, and text in ASCII: it stays so in lower case, and it is read from its own
bytes, one for each character.
-/

namespace ServiceCall

/-- A test that holds of all ASCII characters can be checked on each of them. -/
theorem forall_ascii (holds : Char → Prop) (each : ∀ code < 0x80, holds (Char.ofNat code))
    {c : Char} (ascii : c.toNat < 0x80) : holds c := by
  -- A character is the one of its own number.
  have checked := each c.toNat ascii
  rwa [Char.ofNat_toNat] at checked

/-- Lower case keeps ASCII characters among themselves. -/
theorem toLower_ascii {c : Char} (ascii : c.toNat < 0x80) : c.toLower.toNat < 0x80 :=
  forall_ascii (fun c => c.toLower.toNat < 0x80) (by decide) ascii

namespace Text

/-- There is always a first piece. -/
theorem exists_splitAll (separates : Char → Bool) (text : List Char) :
    ∃ piece pieces, splitAll separates text = piece :: pieces := by
  -- Each case of the cutting has a piece in front.
  unfold splitAll
  split
  · exact ⟨[], [], rfl⟩
  · split
    · exact ⟨_, _, rfl⟩
    · split <;> exact ⟨_, _, rfl⟩

/-- A character starts a new piece if it separates, and else it joins the first piece after it. -/
theorem splitAll_cons {separates : Char → Bool} {rest first : List Char} {others : List (List Char)}
    (after : splitAll separates rest = first :: others) (c : Char) :
    splitAll separates (c :: rest) =
      if separates c then [] :: first :: others else (c :: first) :: others := by
  rw [splitAll, after]

/-- The pieces of a text have no characters of their own. -/
theorem subset_of_mem_splitAll {separates : Char → Bool} {text piece : List Char}
    (member : piece ∈ splitAll separates text) : piece ⊆ text := by
  induction text generalizing piece with
  | nil =>
    -- The only piece of an empty text is empty.
    obtain rfl := List.mem_singleton.mp member
    exact List.nil_subset _
  | cons c rest ih =>
    obtain ⟨first, others, after⟩ := exists_splitAll separates rest
    rw [splitAll_cons after] at member
    rw [after] at ih
    -- Only the first piece is new: it is empty after a separator, or it has one character more.
    split at member
    · rcases List.mem_cons.mp member with rfl | later
      · exact List.nil_subset _
      · exact List.subset_cons_of_subset c (ih later)
    · rcases List.mem_cons.mp member with rfl | later
      · exact List.cons_subset_cons c (ih List.mem_cons_self)
      · exact List.subset_cons_of_subset c (ih (List.mem_cons_of_mem first later))

/-- The pieces between a separator give back the text when they are joined again. -/
theorem intercalate_splitAll (separator : Char) (text : List Char) :
    [separator].intercalate (splitAll (· == separator) text) = text := by
  induction text with
  | nil => rfl
  | cons c rest ih =>
    -- The rest is cut first, and its first piece is the one that the character meets.
    obtain ⟨first, others, after⟩ := exists_splitAll (· == separator) rest
    rw [after] at ih
    rw [splitAll_cons after]
    by_cases here : c = separator
    · -- The empty piece before a separator gives back the separator alone.
      rw [if_pos (by simp [here]), List.intercalate_cons_cons, ih, here]
      rfl
    · -- Only a piece that is not the last one has a separator after it.
      rw [if_neg (by simp [here])]
      cases others with
      | nil => simpa using ih
      | cons second others =>
        rw [List.intercalate_cons_cons] at ih ⊢
        rw [List.cons_append, List.cons_append, ih]

/-- A text without separators is its only piece. -/
theorem splitAll_of_not_mem {separator : Char} {text : List Char} (absent : separator ∉ text) :
    splitAll (· == separator) text = [text] := by
  -- The induction is on the text, each character of which joins the only piece.
  induction text with
  | nil => rfl
  | cons c rest ih =>
    have apart : c ≠ separator := fun same => absent (same ▸ List.mem_cons_self)
    rw [splitAll_cons (ih fun found => absent (List.mem_cons_of_mem c found)),
      if_neg (by simp [apart])]

/-- A text without separators before one is the first piece. -/
theorem splitAll_append {separator : Char} {text : List Char} (absent : separator ∉ text)
    (rest : List Char) :
    splitAll (· == separator) (text ++ separator :: rest) =
      text :: splitAll (· == separator) rest := by
  -- The induction is on the text before the separator.
  induction text with
  | nil =>
    obtain ⟨first, others, after⟩ := exists_splitAll (· == separator) rest
    rw [List.nil_append, splitAll_cons after, if_pos (by simp), after]
  | cons c text ih =>
    have apart : c ≠ separator := fun same => absent (same ▸ List.mem_cons_self)
    rw [List.cons_append, splitAll_cons (ih fun found => absent (List.mem_cons_of_mem c found)),
      if_neg (by simp [apart])]

/-- Cutting does not depend on a change of characters that keeps the separators apart. -/
theorem splitAll_map {separates : Char → Bool} {change : Char → Char} {text : List Char}
    (kept : ∀ c ∈ text, separates (change c) = separates c) :
    splitAll separates (text.map change) = (splitAll separates text).map (List.map change) := by
  induction text with
  | nil => rfl
  | cons c rest ih =>
    obtain ⟨here, later⟩ := List.forall_mem_cons.mp kept
    obtain ⟨first, others, after⟩ := exists_splitAll separates rest
    -- The rest is cut at the same places, and so is the text, by the first character.
    have cut := ih later
    rw [after, List.map_cons] at cut
    rw [List.map_cons, splitAll_cons cut, splitAll_cons after, here]
    split <;> rfl

end Text

namespace Utf8

/-- An ASCII character is one byte. -/
theorem utf8EncodeChar_ascii {c : Char} (ascii : c.toNat < 0x80) :
    String.utf8EncodeChar c = [UInt8.ofNat c.toNat] :=
  if_pos (Nat.le_of_lt_succ ascii)

/-- An ASCII text is read from its own bytes. -/
theorem decodeLenient_encode {text : List Char} (ascii : ∀ c ∈ text, c.toNat < 0x80) :
    decodeLenient (encode text) = text := by
  induction text with
  | nil => rw [encode, List.flatMap_nil, decodeLenient]
  | cons c rest ih =>
    obtain ⟨here, later⟩ := List.forall_mem_cons.mp ascii
    -- The byte is the number of the character, and it announces no others after it.
    have byte : (UInt8.ofNat c.toNat).toNat = c.toNat := by
      rw [UInt8.toNat_ofNat']
      exact Nat.mod_eq_of_lt (by omega)
    have low : UInt8.ofNat c.toNat < 0x80 := by
      rw [UInt8.lt_iff_toNat_lt, byte]
      exact here
    -- The character is read from its own byte, and the others from the bytes after it.
    rw [encode, List.flatMap_cons, utf8EncodeChar_ascii here, List.singleton_append, decodeLenient,
      start, if_pos low]
    simp only [Nat.sub_self, List.drop_zero, byte, Char.ofNat_toNat]
    exact congrArg (c :: ·) (ih later)

end Utf8

end ServiceCall
