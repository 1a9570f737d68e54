import ServiceCall.Proofs.Url.Address
import ServiceCall.Url.Host

/-!
Hosts that web URLs can have. A host name is read in lower case, an IPv4 address from its own text,
and an IPv6 address from its text in brackets.
-/

namespace ServiceCall.Url.Host

/-- A character of host names as they are usually written. -/
def isNameChar (c : Char) : Bool :=
  c.isAlphanum || c == '-' || c == '_' || c == '.'

/-- Whether a text is a host name: no label of it is marked as Punycode, and the last one, before a
dot that may stand at the end, starts with a letter. -/
def isName (name : List Char) : Bool :=
  name.all isNameChar &&
    (Text.splitAll (· == '.') name).all (fun label =>
      Text.afterStart? Domain.codedMark (label.map Char.toLower) == none) &&
    match (Ipv4.parts name).getLast? with
    | some (first :: _) => first.isAlpha
    | _ => false

/-- The characters of host names are ASCII characters. -/
theorem ascii_of_isNameChar {c : Char} (usual : isNameChar c = true) : c.toNat < 0x80 := by
  -- Letters and digits lie in three ranges, all of which end before the last ASCII character.
  have ranges : isNameChar c = ((((decide ('A'.val ≤ c.val ∧ c.val ≤ 'Z'.val) ||
      (decide ('a'.val ≤ c.val) && decide (c.val ≤ 'z'.val))) ||
      (decide ('0'.val ≤ c.val) && decide (c.val ≤ '9'.val))) ||
      c == '-') || c == '_' || c == '.') := rfl
  simp only [ranges, Bool.or_eq_true, Bool.and_eq_true, decide_eq_true_eq, beq_iff_eq,
    UInt32.le_iff_toNat_le] at usual
  rcases usual with ((((⟨_, most⟩ | ⟨_, most⟩) | ⟨_, most⟩) | rfl) | rfl) | rfl
  · exact Nat.lt_of_le_of_lt most (by decide)
  · exact Nat.lt_of_le_of_lt most (by decide)
  · exact Nat.lt_of_le_of_lt most (by decide)
  · decide
  · decide
  · decide

/-- No character of host names starts an encoded byte, or is refused. -/
theorem allowed_of_isNameChar {c : Char} (usual : isNameChar c = true) :
    c ≠ '%' ∧ Domain.isForbidden c.toLower = false :=
  forall_ascii (fun c => isNameChar c = true → c ≠ '%' ∧ Domain.isForbidden c.toLower = false)
    (by decide) (ascii_of_isNameChar usual) usual

/-- A text of such characters without a label in Punycode is an IPv4 address if it ends in a number,
and else a domain in lower case. -/
theorem parseWeb_of_isNameChar {name : List Char} (filled : name ≠ [])
    (usual : ∀ c ∈ name, isNameChar c = true)
    (uncoded : ∀ label ∈ Text.splitAll (· == '.') name,
      Text.afterStart? Domain.codedMark (label.map Char.toLower) = none) :
    parseWeb name =
      if Ipv4.endsInNumber (name.map Char.toLower) then
        (Ipv4.parse (name.map Char.toLower)).map .ipv4
      else .ok (.domain (String.ofList (name.map Char.toLower))) := by
  -- What the steps of the ASCII form ask for is said of the characters one by one.
  have ascii : ∀ c ∈ name, c.toNat < 0x80 := fun c member => ascii_of_isNameChar (usual c member)
  have unencoded : '%' ∉ name := fun found => (allowed_of_isNameChar (usual '%' found)).1 rfl
  have allowed : (name.map Char.toLower).any Domain.isForbidden = false := by
    rw [List.any_map, List.any_eq_false]
    intro c member
    simp [(allowed_of_isNameChar (usual c member)).2]
  -- Nothing of the name is refused, so its ASCII form is the name in lower case.
  have domain := Domain.toAscii_ascii ascii unencoded uncoded
  rw [allowed, if_neg Bool.false_ne_true] at domain
  unfold parseWeb
  split
  · -- A bracket is no character of host names.
    exact absurd (usual '[' List.mem_cons_self) (by decide)
  · simp [domain, filled, Bind.bind, Except.bind]

/-- A letter in lower case is a letter and no digit. -/
theorem toLower_letter {c : Char} (letter : c.isAlpha = true) :
    c.toLower.isLower = true ∧ c.toLower.isDigit = false := by
  -- There are only so many letters in ASCII.
  have usual : isNameChar c = true := by simp [isNameChar, Char.isAlphanum, letter]
  exact forall_ascii (fun c => c.isAlpha = true → c.toLower.isLower = true ∧
    c.toLower.isDigit = false) (by decide) (ascii_of_isNameChar usual) letter

/-- A host name is read in lower case. -/
theorem parseWeb_name {name : List Char} (named : isName name = true) :
    parseWeb name = .ok (.domain (String.ofList (name.map Char.toLower))) := by
  simp only [isName, Bool.and_eq_true, List.all_eq_true, beq_iff_eq] at named
  obtain ⟨⟨usual, uncoded⟩, lettered⟩ := named
  have ascii : ∀ c ∈ name, c.toNat < 0x80 := fun c member => ascii_of_isNameChar (usual c member)
  -- An empty name has no last part that starts with a letter.
  have filled : name ≠ [] := by
    rintro rfl
    cases lettered
  -- The last part starts with a letter in lower case too, and that makes it no number.
  have worded : Ipv4.endsInNumber (name.map Char.toLower) = false := by
    rw [Ipv4.endsInNumber, Ipv4.parts_toLower ascii, List.getLast?_map]
    split at lettered
    · rename_i first rest last
      obtain ⟨letter, unnumbered⟩ := toLower_letter lettered
      simp [last, unnumbered, Ipv4.readPart_letter letter]
    · cases lettered
  rw [parseWeb_of_isNameChar filled usual uncoded, worded, if_neg Bool.false_ne_true]

/-- The characters of an IPv4 address are those of host names, and no letters. -/
theorem plain_of_mem_ipv4 {address : UInt32} {c : Char}
    (member : c ∈ (Ipv4.text address).toList) : isNameChar c = true ∧ c.toLower = c ∧ c ≠ 'x' := by
  -- Digits and the dot are in lower case already.
  rcases Ipv4.isDigit_or_dot_of_mem_text member with digit | rfl
  · have usual : isNameChar c = true := by simp [isNameChar, Char.isAlphanum, digit]
    exact ⟨usual, forall_ascii (fun c => c.isDigit = true → c.toLower = c ∧ c ≠ 'x') (by decide)
      (ascii_of_isNameChar usual) digit⟩
  · decide

/-- The text of an IPv4 address is read as that address. -/
theorem parseWeb_ipv4 (address : UInt32) :
    parseWeb (Ipv4.text address).toList = .ok (.ipv4 address) := by
  -- Digits and dots have no other case.
  have lowered : (Ipv4.text address).toList.map Char.toLower = (Ipv4.text address).toList := by
    rw [List.map_congr_left fun c member => (plain_of_mem_ipv4 member).2.1, List.map_id']
  have filled : (Ipv4.text address).toList ≠ [] := by
    rw [Ipv4.toList_text]
    simp
  have uncoded : ∀ label ∈ Text.splitAll (· == '.') (Ipv4.text address).toList,
      Text.afterStart? Domain.codedMark (label.map Char.toLower) = none := by
    intro label member
    cases label with
    | nil => rfl
    | cons first rest =>
      -- The mark starts with a letter, and the label with a digit.
      obtain ⟨-, same, other⟩ :=
        plain_of_mem_ipv4 (Text.subset_of_mem_splitAll member List.mem_cons_self)
      rw [List.map_cons, same]
      exact if_neg (Ne.symm other)
  rw [parseWeb_of_isNameChar filled (fun c member => (plain_of_mem_ipv4 member).1) uncoded, lowered,
    Ipv4.endsInNumber_text, if_pos rfl, Ipv4.parse_text]
  rfl

/-- The text of an IPv6 address in brackets is read as that address. -/
theorem parseWeb_ipv6 {text : List Char} {pieces : List Nat}
    (read : Ipv6.parse text = .ok pieces) :
    parseWeb ('[' :: text ++ [']']) = .ok (.ipv6 pieces) := by
  -- The brackets are taken off, and what stands between them is read.
  simp [parseWeb, parseBracketed, insideBrackets?, read, Except.map]

end ServiceCall.Url.Host
