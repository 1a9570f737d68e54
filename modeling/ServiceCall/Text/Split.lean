/-! Cutting text at a separator: at its first place, at its last place, or at every place. -/

namespace ServiceCall.Text

/-- The text before and after the first place where a separator stands, which is left out. -/
def splitFirst? (separator : Char) : List Char → Option (List Char × List Char)
  | [] => none
  | c :: rest =>
    if c = separator then some ([], rest)
    else (splitFirst? separator rest).map fun (before, after) => (c :: before, after)

/-- The text before and after the last place where a separator stands, which is left out. -/
def splitLast? (separator : Char) (text : List Char) : Option (List Char × List Char) :=
  (splitFirst? separator text.reverse).map fun (after, before) => (before.reverse, after.reverse)

/-- The pieces between all separators satisfying a test; there is always at least one piece. -/
def splitAll (separates : Char → Bool) : List Char → List (List Char)
  | [] => [[]]
  | c :: rest =>
    if separates c then [] :: splitAll separates rest
    else match splitAll separates rest with
      | piece :: pieces => (c :: piece) :: pieces
      | [] => [[c]]

/-- The text left after a given start, when the text starts with it. -/
def afterStart? : List Char → List Char → Option (List Char)
  | [], text => some text
  | _ :: _, [] => none
  | s :: start, c :: text => if s = c then afterStart? start text else none

/-- Cutting at the first separator gives back the text when the parts are joined again. -/
theorem splitFirst?_eq_some {separator : Char} {text before after : List Char}
    (cut : splitFirst? separator text = some (before, after)) :
    text = before ++ separator :: after ∧ separator ∉ before := by
  -- The separator is met at the head, or the head joins the part before the cut.
  induction text generalizing before after with
  | nil => simp [splitFirst?] at cut
  | cons c rest ih =>
    by_cases same : c = separator
    · simp only [splitFirst?, same, if_true, Option.some.injEq, Prod.mk.injEq] at cut
      obtain ⟨rfl, rfl⟩ := cut
      simp [same]
    · simp only [splitFirst?, same, if_false, Option.map_eq_some_iff] at cut
      obtain ⟨⟨b, a⟩, inner, eq⟩ := cut
      simp only [Prod.mk.injEq] at eq
      obtain ⟨rfl, rfl⟩ := eq
      obtain ⟨joined, absent⟩ := ih inner
      refine ⟨by simp [joined], ?_⟩
      simp [absent, Ne.symm same]

/-- A text is cut at its first separator. -/
theorem splitFirst?_append {separator : Char} {before : List Char} (absent : separator ∉ before)
    (after : List Char) : splitFirst? separator (before ++ separator :: after) =
      some (before, after) := by
  -- The induction is on the text before the separator, which is passed.
  induction before with
  | nil => simp [splitFirst?]
  | cons c before ih =>
    obtain ⟨apart, later⟩ := not_or.mp fun found => absent (List.mem_cons.mpr found)
    simp [splitFirst?, Ne.symm apart, ih later]

/-- A text can be cut exactly where it has a separator. -/
theorem splitFirst?_eq_none {separator : Char} {text : List Char} :
    splitFirst? separator text = none ↔ separator ∉ text := by
  -- The search fails if it comes to the end of the text.
  induction text with
  | nil => simp [splitFirst?]
  | cons c rest ih =>
    by_cases same : c = separator
    · simp [splitFirst?, same]
    · simp [splitFirst?, same, ih, Ne.symm same]

/-- Cutting at the last separator gives back the text when the parts are joined again. -/
theorem splitLast?_eq_some {separator : Char} {text before after : List Char}
    (cut : splitLast? separator text = some (before, after)) :
    text = before ++ separator :: after ∧ separator ∉ after := by
  -- The last separator is the first one of the text read backwards.
  simp only [splitLast?, Option.map_eq_some_iff, Prod.mk.injEq] at cut
  obtain ⟨⟨behind, front⟩, found, rfl, rfl⟩ := cut
  obtain ⟨joined, absent⟩ := splitFirst?_eq_some found
  refine ⟨?_, by simpa using absent⟩
  rw [← List.reverse_reverse text, joined]
  simp

/-- A text is cut at its last separator. -/
theorem splitLast?_append {separator : Char} (before : List Char) {after : List Char}
    (absent : separator ∉ after) :
    splitLast? separator (before ++ separator :: after) = some (before, after) := by
  -- Backwards, the last separator is the first one.
  have backwards : (before ++ separator :: after).reverse =
      after.reverse ++ separator :: before.reverse := by simp
  rw [splitLast?, backwards, splitFirst?_append (by simpa using absent)]
  simp

/-- A text can be cut at a last separator exactly where it has one. -/
theorem splitLast?_eq_none {separator : Char} {text : List Char} :
    splitLast? separator text = none ↔ separator ∉ text := by
  simp [splitLast?, splitFirst?_eq_none]

/-- What is left after a start is the text that follows it. -/
theorem afterStart?_eq_some {start text rest : List Char} :
    afterStart? start text = some rest ↔ text = start ++ rest := by
  -- The induction is on the start, which is compared character by character.
  induction start generalizing text with
  | nil => simp [afterStart?]
  | cons s start ih =>
    cases text with
    | nil => simp [afterStart?]
    | cons c text =>
      by_cases same : s = c
      · simp [afterStart?, same, ih]
      · simp [afterStart?, same, Ne.symm same]

end ServiceCall.Text
