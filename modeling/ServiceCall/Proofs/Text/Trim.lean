import Mathlib.Data.List.DropRight
import ServiceCall.Text.Blank

/-! What is left of a text without the blank characters at its ends, said apart from the function
that trims it. -/

namespace ServiceCall.Text

/-- A text is another one without the blank characters around it, and has none at its own ends. -/
structure Trimmed (text inner : List Char) : Prop where
  around : ∃ before after, text = before ++ inner ++ after ∧
    (∀ c ∈ before, isBlank c = true) ∧ ∀ c ∈ after, isBlank c = true
  first : ∀ c, inner.head? = some c → isBlank c = false
  last : ∀ c, inner.getLast? = some c → isBlank c = false

/-- A text without blank characters at its ends is left as it is. -/
theorem Trimmed.refl {text : List Char} (first : ∀ c, text.head? = some c → isBlank c = false)
    (last : ∀ c, text.getLast? = some c → isBlank c = false) : Trimmed text text where
  around := ⟨[], [], by simp, by simp, by simp⟩
  first := first
  last := last

/-- The characters that are left were there before. -/
theorem Trimmed.subset {text inner : List Char} (trimmed : Trimmed text inner) :
    inner ⊆ text := by
  -- What is left stands between what was around it.
  obtain ⟨before, after, rfl, -, -⟩ := trimmed.around
  intro c member
  simp [member]

/-- What is left of a text after its start starts with a character that fails the test. -/
theorem head?_dropWhile {test : Char → Bool} {text : List Char} {c : Char}
    (first : (text.dropWhile test).head? = some c) : test c = false := by
  -- The dropping stops at the first character that fails.
  have fails := List.head?_dropWhile_not test text
  rwa [first] at fails

/-- A start that passes a test is dropped up to the first character that fails it. -/
theorem dropWhile_append {test : Char → Bool} {before rest : List Char}
    (dropped : ∀ c ∈ before, test c = true) (kept : ∀ c, rest.head? = some c → test c = false) :
    (before ++ rest).dropWhile test = rest := by
  -- The start is dropped whole, and the rest begins with what is kept.
  rw [List.dropWhile_append_of_pos dropped]
  cases rest with
  | nil => rfl
  | cons c rest => exact List.dropWhile_cons_of_neg (by simp [kept c rfl])

/-- Trimming a text leaves it without the blank characters at its ends. -/
theorem trimmed_trim (text : List Char) : Trimmed text (trim text) := by
  -- The start is dropped first, and the end is dropped from what that leaves.
  have steps : trim text = (text.dropWhile isBlank).rdropWhile isBlank := rfl
  have left := List.takeWhile_append_dropWhile (p := isBlank) (l := text)
  have fails : ∀ c, (text.dropWhile isBlank).head? = some c → isBlank c = false :=
    fun c => head?_dropWhile
  generalize text.dropWhile isBlank = rest at steps left fails
  -- The end is told apart by reading backwards.
  have right : rest.rdropWhile isBlank ++ rest.rtakeWhile isBlank = rest := by
    rw [List.rdropWhile, List.rtakeWhile, ← List.reverse_append, List.takeWhile_append_dropWhile,
      List.reverse_reverse]
  rw [steps]
  refine ⟨⟨text.takeWhile isBlank, rest.rtakeWhile isBlank, ?_, ?_, ?_⟩, ?_, ?_⟩
  · rw [List.append_assoc, right, left]
  · exact fun c member => List.mem_takeWhile_imp member
  · exact fun c member => List.mem_rtakeWhile_imp member
  · -- Dropping the end keeps the first character, unless nothing is left.
    intro c first
    apply fails
    rw [← right, List.head?_append, first]
    rfl
  · -- The last character is the first one of the text read backwards.
    intro c last
    rw [List.rdropWhile, List.getLast?_reverse] at last
    exact head?_dropWhile last

/-- There is no other way to trim a text. -/
theorem trim_eq_of_trimmed {text inner : List Char} (trimmed : Trimmed text inner) :
    trim text = inner := by
  obtain ⟨⟨before, after, rfl, blankBefore, blankAfter⟩, first, last⟩ := trimmed
  show ((before ++ inner ++ after).dropWhile isBlank).rdropWhile isBlank = inner
  cases inner with
  | nil =>
    -- Of a text with nothing but blank characters nothing is left.
    have blank : ∀ c ∈ before ++ [] ++ after, isBlank c = true := by
      simpa [or_imp, forall_and] using ⟨blankBefore, blankAfter⟩
    rw [List.dropWhile_eq_nil_iff.mpr blank]
    rfl
  | cons c rest =>
    -- First the start is dropped, and then the end, each up to a character that is not blank.
    have begins : (before ++ (c :: rest ++ after)).dropWhile isBlank = c :: rest ++ after :=
      dropWhile_append blankBefore fun d starts => first d starts
    have ends : (after.reverse ++ (c :: rest).reverse).dropWhile isBlank = (c :: rest).reverse :=
      dropWhile_append (fun d member => blankAfter d (List.mem_reverse.mp member))
        fun d stops => last d (by rwa [List.head?_reverse] at stops)
    rw [List.append_assoc, begins, List.rdropWhile, List.reverse_append, ends, List.reverse_reverse]

end ServiceCall.Text
