import ServiceCall.Proofs.Sequencing
import ServiceCall.Proofs.Text.Ascii
import ServiceCall.Url.Domain
import ServiceCall.Url.Percent

/-!
Domains in plain ASCII. Every step from the written domain to its ASCII form leaves such a domain
alone, except for the first one, which puts it in lower case.
-/

namespace ServiceCall.Url

/-- A text without percent signs is decoded to its own bytes. -/
theorem percentDecode_eq_encode {text : List Char} (unencoded : '%' ∉ text) :
    percentDecode text = Utf8.encode text := by
  -- The induction is on the text, each character of which is encoded by itself.
  induction text with
  | nil => rw [percentDecode, Utf8.encode, List.flatMap_nil]
  | cons c rest ih =>
    have later : '%' ∉ rest := fun found => unencoded (List.mem_cons_of_mem c found)
    rw [percentDecode, ih later, Utf8.encode, Utf8.encode, List.flatMap_cons]
    -- The equation that was used is the one for a text that starts without an encoded byte.
    rintro high low others rfl
    exact absurd List.mem_cons_self unencoded

namespace Domain

/-- Lower case keeps dots and makes no new ones. -/
theorem isDot_toLower {c : Char} (ascii : c.toNat < 0x80) : (c.toLower == '.') = (c == '.') :=
  forall_ascii (fun c => (c.toLower == '.') = (c == '.')) (by decide) ascii

/-- An ASCII text is mapped to lower case. -/
theorem mapText_ascii {text : List Char} (ascii : ∀ c ∈ text, c.toNat < 0x80) :
    mapText text = some (text.map Char.toLower) := by
  -- Each character is mapped to its own lower case, and the pieces are joined.
  have each : text.mapM mapChar = some (text.map fun c => [c.toLower]) :=
    mapM_eq_some_map fun c member => if_pos (ascii c member)
  have joined : (text.map fun c => [c.toLower]).flatten = text.map Char.toLower := by
    rw [← List.flatMap_def]
    exact List.flatMap_pure_eq_map _ _
  rw [mapText, each, Option.map_some, joined]

/-- No ASCII character is a mark. -/
theorem combiningClass_ascii {c : Char} (ascii : c.toNat < 0x80) : combiningClass c = 0 :=
  if_pos (by omega)

/-- An ASCII text has no marks to be put in order. -/
theorem ordered_ascii {text : List Char} (ascii : ∀ c ∈ text, c.toNat < 0x80) :
    ordered text = text := by
  -- The induction is on the text, from behind which nothing moves forward.
  induction text with
  | nil => rfl
  | cons c rest ih =>
    obtain ⟨_, later⟩ := List.forall_mem_cons.mp ascii
    rw [ordered, List.foldr_cons, ← ordered, ih later]
    cases rest with
    | nil => rfl
    | cons next rest =>
      -- The next character is no mark, so nothing goes before the first one.
      rw [place, combiningClass_ascii (later next List.mem_cons_self), if_neg (by simp)]

/-- No character composes with ASCII characters after it. -/
theorem composeAfter_ascii (base : Char) {text : List Char} (ascii : ∀ c ∈ text, c.toNat < 0x80) :
    composeAfter base [] text = base :: text := by
  -- The induction is on the text, whose characters follow one another as they are.
  induction text generalizing base with
  | nil => rfl
  | cons c rest ih =>
    obtain ⟨here, later⟩ := List.forall_mem_cons.mp ascii
    -- What composes with a character before it lies beyond ASCII.
    have apart : composite? base c = none := if_pos (by omega)
    simp [composeAfter, apart, combiningClass_ascii here, ih c later]

/-- An ASCII text is composed already. -/
theorem compose_ascii {text : List Char} (ascii : ∀ c ∈ text, c.toNat < 0x80) :
    compose text = text := by
  -- It is taken apart into its own characters, which are put together again as they were.
  have whole : text.flatMap (takeApart 4) = text := by
    have each : ∀ c ∈ text, takeApart 4 c = [c] := fun c member => if_pos (ascii c member)
    rw [List.flatMap_congr each]
    exact List.flatMap_singleton' text
  rw [compose, whole, ordered_ascii ascii]
  cases text with
  | nil => rfl
  | cons c rest =>
    obtain ⟨here, later⟩ := List.forall_mem_cons.mp ascii
    rw [composeOrdered, if_pos (combiningClass_ascii here), composeAfter_ascii c later]

/-- No ASCII text asks for a check of directions. -/
theorem isRightToLeft_ascii {label : List Char} (ascii : ∀ c ∈ label, c.toNat < 0x80) :
    isRightToLeft label = false := by
  refine List.any_eq_false.mpr fun c member => ?_
  have direction : directionOf c =
      if c.isAlpha then .leftToRight else if c.isDigit then .number else .neutral :=
    if_pos (ascii c member)
  -- It is a letter, a digit, or something without a direction.
  rw [direction]
  split
  · decide
  · split <;> decide

/-- Labels of an ASCII domain without the mark of Punycode are used as they are. -/
theorem labels?_ascii {domain : List Char} (ascii : ∀ c ∈ domain, c.toNat < 0x80)
    (uncoded : ∀ label ∈ Text.splitAll (· == '.') domain, Text.afterStart? codedMark label = none) :
    labels? domain =
      some ((Text.splitAll (· == '.') domain).map fun label => ⟨label, label⟩) := by
  have within : ∀ label ∈ Text.splitAll (· == '.') domain, ∀ c ∈ label, c.toNat < 0x80 :=
    fun label member c among => ascii c (Text.subset_of_mem_splitAll member among)
  -- Every label is read as what it says.
  have read : (Text.splitAll (· == '.') domain).mapM Label.ofText =
      some ((Text.splitAll (· == '.') domain).map fun label => ⟨label, label⟩) := by
    refine mapM_eq_some_map fun label member => ?_
    have plain : isAscii label = true :=
      List.all_eq_true.mpr fun c among => decide_eq_true (within label member c among)
    rw [Label.ofText, uncoded label member, if_pos plain]
  -- Without a label from right to left there is nothing to check.
  have fit : directionsFit (((Text.splitAll (· == '.') domain).map fun label =>
      (⟨label, label⟩ : Label)).map (·.meant)) = true := by
    have none_turned : (Text.splitAll (· == '.') domain).any isRightToLeft = false :=
      List.any_eq_false.mpr fun label member => by
        rw [isRightToLeft_ascii (within label member)]
        exact Bool.false_ne_true
    simp only [List.map_map, directionsFit, Bool.or_eq_true, Bool.not_eq_true']
    exact .inl (by simpa using none_turned)
  rw [labels?, read]
  exact if_pos fit

/-- The ASCII form of an ASCII domain without encoded bytes or labels: the domain in lower case,
unless it has a character that is refused. -/
theorem toAscii_ascii {domain : List Char} (ascii : ∀ c ∈ domain, c.toNat < 0x80)
    (unencoded : '%' ∉ domain)
    (uncoded : ∀ label ∈ Text.splitAll (· == '.') domain,
      Text.afterStart? codedMark (label.map Char.toLower) = none) :
    toAscii (percentDecode domain) =
      if (domain.map Char.toLower).any isForbidden then .error .invalidDomain
      else .ok (domain.map Char.toLower) := by
  -- Lower case leaves ASCII, dots and the cuts at them alone.
  have lowered : ∀ c ∈ domain.map Char.toLower, c.toNat < 0x80 :=
    List.forall_mem_map.mpr fun c member => toLower_ascii (ascii c member)
  have cut : Text.splitAll (· == '.') (domain.map Char.toLower) =
      (Text.splitAll (· == '.') domain).map (List.map Char.toLower) :=
    Text.splitAll_map fun c member => isDot_toLower (ascii c member)
  -- The text in lower case passes through the normal form and the check of its labels.
  have labels := labels?_ascii lowered (by rw [cut]; exact List.forall_mem_map.mpr uncoded)
  rw [toAscii, percentDecode_eq_encode unencoded, Utf8.decodeLenient_encode ascii,
    mapText_ascii ascii]
  simp only [compose_ascii lowered, labels, List.map_map]
  split
  · rfl
  · -- Each label is written as it is meant.
    have written : ((fun label : Label => label.written) ∘ fun label => ⟨label, label⟩) = id := rfl
    rw [written, List.map_id, Text.intercalate_splitAll]

end Domain

end ServiceCall.Url
