import Mathlib.Data.List.Basic
import Mathlib.Data.List.TakeWhile
import ServiceCall.Target.Basic

/-!
The grammar of interface names, and what is cut out of one as its simple name. An interface is named
after the last part of its path, unless bounds follow the path without arguments between them; then
the last bound gives the name.
-/

namespace ServiceCall

namespace Target

/-- A text that does not start with a word stays as it is. -/
theorem withoutStart_eq {word text : List Char} (other : Text.afterStart? word text = none)
    (fuel : Nat) : withoutStart word fuel text = text := by
  -- Nothing is dropped, however many copies may be.
  cases fuel with
  | zero => rfl
  | succ fuel => rw [withoutStart, other]

/-- One copy of a word at the start of a text is dropped. -/
theorem withoutStart_append (word rest : List Char) (fuel : Nat) :
    withoutStart word (fuel + 1) (word ++ rest) = withoutStart word fuel rest := by
  -- The word is found at the start, and the search goes on behind it.
  rw [withoutStart, Text.afterStart?_eq_some.mpr rfl]

/-- A word at the start of a text ends before a character that the word does not have. -/
theorem exists_append_of_append_eq {word front rest after : List Char} {stop : Char}
    (apart : stop ∉ word) (begins : front ++ stop :: rest = word ++ after) :
    ∃ part, front = word ++ part ∧ after = part ++ stop :: rest := by
  rcases List.append_eq_append_iff.mp begins with ⟨part, cut, left⟩ | ⟨part, cut, left⟩
  · cases part with
    | nil => exact ⟨[], by simpa using cut.symm, by simpa using left.symm⟩
    | cons first others =>
      -- Here the word would reach beyond that character.
      have same : stop = first := (List.cons.inj left).1
      have member : stop ∈ word := by
        rw [cut, same]
        simp
      exact absurd member apart
  · exact ⟨part, cut, left⟩

/-- Dropping copies of a word never reaches a character that the word does not have. -/
theorem exists_withoutStart_append {word : List Char} {stop : Char} (apart : stop ∉ word)
    (fuel : Nat) (front rest : List Char) :
    ∃ kept, kept <:+ front ∧
      withoutStart word fuel (front ++ stop :: rest) = kept ++ stop :: rest := by
  -- The induction is on the copies that may be dropped, each of which lies before that character.
  induction fuel generalizing front with
  | zero => exact ⟨front, List.suffix_refl front, rfl⟩
  | succ fuel ih =>
    rw [withoutStart]
    cases begins : Text.afterStart? word (front ++ stop :: rest) with
    | none => exact ⟨front, List.suffix_refl front, rfl⟩
    | some after =>
      obtain ⟨part, cut, left⟩ :=
        exists_append_of_append_eq apart (Text.afterStart?_eq_some.mp begins)
      obtain ⟨kept, suffix, same⟩ := ih part
      rw [left]
      refine ⟨kept, suffix.trans ?_, same⟩
      rw [cut]
      exact List.suffix_append word part

/-- What stands before the first double colon begins with the characters that are no colons. -/
theorem beforeDoubleColon_append {start : List Char} (plain : ':' ∉ start) (rest : List Char) :
    beforeDoubleColon (start ++ rest) = start ++ beforeDoubleColon rest := by
  -- The induction is on the characters, none of which begins a double colon.
  induction start with
  | nil => rfl
  | cons c start ih =>
    obtain ⟨apart, later⟩ := not_or.mp fun found => plain (List.mem_cons.mpr found)
    rw [List.cons_append, List.cons_append, ← ih later]
    -- The first character is no colon, so that no double colon starts with it.
    rw [beforeDoubleColon.eq_def]
    split
    · rename_i same
      exact absurd (List.cons.inj same).1.symm apart
    · rename_i same
      obtain ⟨rfl, rfl⟩ := List.cons.inj same
      rfl
    · rename_i same
      cases same

/-- What stands behind the last double colon ends with the characters that are no colons. -/
theorem afterLastPath_append (front : List Char) {name : List Char} (plain : ':' ∉ name) :
    afterLastPath (front ++ name) = afterLastPath front ++ name := by
  -- Read backwards, the name comes before the first double colon.
  have backwards : ':' ∉ name.reverse := by simpa using plain
  rw [afterLastPath, List.reverse_append, beforeDoubleColon_append backwards, List.reverse_append,
    List.reverse_reverse, afterLastPath]

/-- Nothing stands behind a double colon at the end. -/
theorem afterLastPath_colons (front : List Char) : afterLastPath (front ++ [':', ':']) = [] := by
  simp [afterLastPath, beforeDoubleColon]

end Target

/-- One name of a path: some characters, none of which ends a name. -/
structure Identifier where
  chars : List Char
  filled : chars ≠ [] := by decide
  plain : ' ' ∉ chars ∧ ':' ∉ chars ∧ '<' ∉ chars := by decide

/-- The text of a name. -/
def Identifier.text (name : Identifier) : String :=
  String.ofList name.chars

/-- A path of names: those that lead to the final one, and the final one. -/
structure TypePath where
  scopes : List Identifier := []
  final : Identifier

namespace TypePath

/-- The characters before the final name: a double colon follows each name that leads to it. -/
def lead (path : TypePath) : List Char :=
  path.scopes.flatMap fun scope => scope.chars ++ [':', ':']

/-- The characters of a path. -/
def chars (path : TypePath) : List Char :=
  path.lead ++ path.final.chars

/-- Only the characters of names and colons are in a path. -/
theorem mem_chars {path : TypePath} {c : Char} (found : c ∈ path.chars) :
    c = ':' ∨ ∃ name : Identifier, c ∈ name.chars := by
  rcases List.mem_append.mp found with leading | last
  · -- A character before the final name is one of a scope or of the colons behind it.
    obtain ⟨scope, -, within⟩ := List.mem_flatMap.mp leading
    rcases List.mem_append.mp within with inScope | colon
    · exact .inr ⟨scope, inScope⟩
    · exact .inl (by simpa using colon)
  · exact .inr ⟨path.final, last⟩

/-- No path has a space. -/
theorem space_not_mem (path : TypePath) : ' ' ∉ path.chars := by
  -- Neither a colon nor a character of a name is a space.
  intro found
  rcases mem_chars found with colon | ⟨name, within⟩
  · exact absurd colon (by decide)
  · exact name.plain.1 within

/-- No path has an angle bracket. -/
theorem bracket_not_mem (path : TypePath) : '<' ∉ path.chars := by
  -- Neither a colon nor a character of a name is a bracket.
  intro found
  rcases mem_chars found with colon | ⟨name, within⟩
  · exact absurd colon (by decide)
  · exact name.plain.2.2 within

/-- Nothing stands behind the last double colon before a final name. -/
theorem afterLastPath_lead {path : TypePath} (leads : path.scopes ≠ []) (front : List Char) :
    Target.afterLastPath (front ++ path.lead) = [] := by
  obtain ⟨before, last, split⟩ := (List.eq_nil_or_concat' path.scopes).resolve_left leads
  -- The last scope has its double colon at the end.
  have ends : front ++ path.lead = (front ++ before.flatMap (fun scope =>
      scope.chars ++ [':', ':']) ++ last.chars) ++ [':', ':'] := by
    simp [lead, split]
  rw [ends, Target.afterLastPath_colons]

/-- A path with scopes has the final name behind its last double colon, whatever stands in front. -/
theorem afterLastPath_append_chars {path : TypePath} (leads : path.scopes ≠ [])
    (front : List Char) : Target.afterLastPath (front ++ path.chars) = path.final.chars := by
  -- The final name has no colon, so it is kept whole behind the last one.
  rw [chars, ← List.append_assoc, Target.afterLastPath_append _ path.final.plain.2.1,
    afterLastPath_lead leads, List.nil_append]

/-- A path has the final name behind its last double colon, or else it is the final name. -/
theorem afterLastPath_chars (path : TypePath) :
    Target.afterLastPath path.chars = path.final.chars := by
  by_cases leads : path.scopes = []
  · -- Without scopes there is no double colon at all.
    have lone : path.lead = [] := by rw [lead, leads]; rfl
    rw [chars, lone, Target.afterLastPath_append _ path.final.plain.2.1]
    rfl
  · exact afterLastPath_append_chars leads []

end TypePath

/--
The full name of an interface: a mark if it is an object of a trait, a path, arguments in angle
brackets, and the bounds that are added to it.
-/
structure InterfaceName where
  dynamic : Bool := true
  path : TypePath
  arguments : Option (List Char) := none
  bounds : List TypePath := []

namespace InterfaceName

/-- The mark in front of the name of a trait object. -/
def objectMark : List Char := "dyn ".toList

/-- What follows the path of a name: its arguments in brackets, and its bounds. -/
def tail (name : InterfaceName) : List Char :=
  (match name.arguments with
    | some inside => '<' :: (inside ++ ['>'])
    | none => []) ++
  name.bounds.flatMap fun bound => " + ".toList ++ bound.chars

/-- The characters of a name. -/
def chars (name : InterfaceName) : List Char :=
  (if name.dynamic then objectMark else []) ++ (name.path.chars ++ name.tail)

/-- The text of a name. -/
def text (name : InterfaceName) : String :=
  String.ofList name.chars

/-- The final name of an interface. -/
def final (name : InterfaceName) : String :=
  name.path.final.text

/--
The simple name of an interface shows its final name: its arguments cut off the bounds, or it has no
bounds, or the last one of them is a path to the same final name.
-/
def ShowsFinal (name : InterfaceName) : Prop :=
  name.arguments.isSome ∨ name.bounds = [] ∨
    ∃ bound ∈ name.bounds.getLast?, bound.scopes ≠ [] ∧ bound.final.text = name.final

/-- The simple name of an interface is read off its characters. -/
theorem simpleName_text (name : InterfaceName) :
    Target.simpleName name.text = String.ofList (Target.afterLastPath
      ((Target.withoutStart objectMark name.chars.length name.chars).takeWhile (· != '<'))) := by
  -- The simple name is read from the text, character by character.
  have same : name.text.toList = name.chars := String.toList_ofList
  rw [Target.simpleName, same]
  rfl

/-- A path is cut off before arguments, or at the end of the text. -/
theorem takeWhile_chars (path : TypePath) {rest : List Char}
    (ends : ∀ c ∈ rest.head?, c = '<') :
    (path.chars ++ rest).takeWhile (· != '<') = path.chars := by
  -- The path is passed, since it holds no bracket.
  have within : ∀ c ∈ path.chars, (c != '<') = true := by
    intro c found
    have other : c ≠ '<' := fun same => path.bracket_not_mem (same ▸ found)
    simpa using other
  rw [List.takeWhile_append_of_pos within]
  -- What follows the path is empty or starts with a bracket.
  cases rest with
  | nil => simp
  | cons first others =>
    have bracket : first = '<' := ends first rfl
    simp [bracket]

/-- A path does not start with the mark of a trait object, even if its first name is the word. -/
theorem afterStart?_chars (path : TypePath) {rest : List Char}
    (ends : ∀ c ∈ rest.head?, c = '<') :
    Text.afterStart? objectMark (path.chars ++ rest) = none := by
  rw [Option.eq_none_iff_forall_ne_some]
  intro after begins
  have whole := Text.afterStart?_eq_some.mp begins
  -- The mark has a space, which the path before the first bracket has not.
  have cut : path.chars = objectMark ++ after.takeWhile (· != '<') := by
    rw [← takeWhile_chars path ends, whole]
    exact List.takeWhile_append_of_pos (by simp [objectMark])
  have space : ' ' ∈ path.chars := by
    rw [cut]
    exact List.mem_append_left _ (by decide)
  exact path.space_not_mem space

/-- The mark is dropped from a name whose path is followed by arguments or by nothing. -/
theorem withoutStart_chars {name : InterfaceName} (ends : ∀ c ∈ name.tail.head?, c = '<') :
    Target.withoutStart objectMark name.chars.length name.chars = name.path.chars ++ name.tail := by
  have other := afterStart?_chars name.path ends
  rw [chars]
  cases name.dynamic with
  | false => exact Target.withoutStart_eq other _
  | true =>
    -- The mark is dropped once, and nothing more.
    exact (Target.withoutStart_append objectMark _ _).trans (Target.withoutStart_eq other _)

/-- A name with arguments, or without bounds, has the final name of its path. -/
theorem simpleName_of_cut {name : InterfaceName}
    (cut : name.arguments.isSome ∨ name.bounds = []) :
    Target.simpleName name.text = name.final := by
  have ends : ∀ c ∈ name.tail.head?, c = '<' := by
    intro c first
    cases given : name.arguments with
    | some inside =>
      -- The bracket of the arguments comes before all bounds.
      simp only [tail, given, List.cons_append, List.head?_cons, Option.mem_def,
        Option.some.injEq] at first
      exact first.symm
    | none =>
      -- Without bounds nothing follows the path.
      have unbounded : name.bounds = [] := by simpa [given] using cut
      simp [tail, given, unbounded] at first
  rw [simpleName_text, withoutStart_chars ends, takeWhile_chars name.path ends,
    name.path.afterLastPath_chars]
  rfl

/-- A name without arguments has no angle bracket before its last bound. -/
theorem exists_chars_eq {name : InterfaceName} {bound : TypePath}
    (bare : name.arguments = none) (last : name.bounds.getLast? = some bound) :
    ∃ front, name.chars = front ++ '+' :: ' ' :: bound.chars ∧ '<' ∉ front := by
  obtain ⟨others, bounds⟩ := List.getLast?_eq_some_iff.mp last
  refine ⟨(if name.dynamic then objectMark else []) ++ (name.path.chars ++
    (others.flatMap (fun bound => " + ".toList ++ bound.chars) ++ [' '])), ?_, ?_⟩
  · simp [chars, tail, bare, bounds]
  · -- Neither the mark nor a path has one, and the bounds are paths behind a sign.
    cases name.dynamic with
    | false => simp [TypePath.bracket_not_mem]
    | true => simp [objectMark, TypePath.bracket_not_mem]

/-- The simple name of bounds without arguments before them is read off the end of the last one. -/
theorem simpleName_of_bound {name : InterfaceName} {bound : TypePath}
    (bare : name.arguments = none) (last : name.bounds.getLast? = some bound) :
    ∃ front, Target.simpleName name.text =
      String.ofList (Target.afterLastPath (front ++ ' ' :: bound.chars)) := by
  obtain ⟨front, whole, unbracketed⟩ := exists_chars_eq bare last
  have read := simpleName_text name
  generalize name.chars.length = fuel at read
  -- The mark is dropped somewhere before the last sign, and no bracket cuts off the rest.
  have apart : '+' ∉ objectMark := by decide
  obtain ⟨kept, suffix, same⟩ :=
    Target.exists_withoutStart_append apart fuel front (' ' :: bound.chars)
  have uncut : '<' ∉ kept ++ '+' :: ' ' :: bound.chars := by
    have before : '<' ∉ kept := fun found => unbracketed (suffix.subset found)
    simp [before, bound.bracket_not_mem]
  rw [whole, same, List.takeWhile_eq_self_iff.mpr] at read
  · exact ⟨kept ++ ['+'], by simpa using read⟩
  · intro c found
    have other : c ≠ '<' := fun same => uncut (same ▸ found)
    simpa using other

/-- Of bounds without arguments before them the last one names the interface, if it has scopes. -/
theorem simpleName_of_scopes {name : InterfaceName} {bound : TypePath}
    (bare : name.arguments = none) (last : name.bounds.getLast? = some bound)
    (leads : bound.scopes ≠ []) : Target.simpleName name.text = bound.final.text := by
  -- The last bound is a path, whatever stands in front of it.
  obtain ⟨front, read⟩ := simpleName_of_bound bare last
  have whole : front ++ ' ' :: bound.chars = (front ++ [' ']) ++ bound.chars := by simp
  rw [read, whole, TypePath.afterLastPath_append_chars leads]
  rfl

/-- A last bound without scopes is shown with what stands before it, which is no name at all. -/
theorem simpleName_ne_of_no_scopes {name : InterfaceName} {bound : TypePath}
    (bare : name.arguments = none) (last : name.bounds.getLast? = some bound)
    (lone : bound.scopes = []) : Target.simpleName name.text ≠ name.final := by
  obtain ⟨front, read⟩ := simpleName_of_bound bare last
  -- A bound without scopes has no colon, so all that stands before it is shown too.
  have plain : ':' ∉ ' ' :: bound.chars := by
    have name : bound.chars = bound.final.chars := by simp [TypePath.chars, TypePath.lead, lone]
    simp [name, bound.final.plain.2.1]
  rw [read, Target.afterLastPath_append _ plain]
  intro same
  -- The space before the bound is shown, and the final name has none.
  have chars := String.ofList_injective same
  have space : ' ' ∈ name.path.final.chars := by
    rw [← chars]
    simp
  exact name.path.final.plain.1 space

/-- The simple name of an interface is the final name exactly if it shows it. -/
theorem simpleName_eq_final_iff (name : InterfaceName) :
    Target.simpleName name.text = name.final ↔ name.ShowsFinal := by
  by_cases cut : name.arguments.isSome ∨ name.bounds = []
  · exact iff_of_true (simpleName_of_cut cut) (cut.imp_right .inl)
  · obtain ⟨unargued, bounded⟩ := not_or.mp cut
    have bare : name.arguments = none := by simpa using unargued
    obtain ⟨bound, last⟩ := Option.ne_none_iff_exists'.mp
      (fun none => bounded (List.getLast?_eq_none_iff.mp none))
    -- Without arguments and with bounds, only the last case is left.
    have shown : name.ShowsFinal ↔ bound.scopes ≠ [] ∧ bound.final.text = name.final := by
      simp [ShowsFinal, bare, bounded, last]
    rw [shown]
    -- A last bound has a name of its own to show only behind scopes.
    by_cases lone : bound.scopes = []
    · exact iff_of_false (simpleName_ne_of_no_scopes bare last lone) (fun shows => shows.1 lone)
    · rw [simpleName_of_scopes bare last lone]
      simp [lone]

end InterfaceName

end ServiceCall
