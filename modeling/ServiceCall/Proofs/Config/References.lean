import Mathlib.Data.List.Infix
import ServiceCall.Config.Environment

/-!
What becomes of the references in a server entry. Each is meant to stand for the value of its
variable, all of them at once; they are replaced one after another all over the entry, which comes
to the same as long as no value can be taken for a part of a reference.
-/

namespace ServiceCall.Environment

/-- A piece of an entry: a reference to a variable, or a character that belongs to none. -/
inductive Piece where
  | char (c : Char)
  | reference (name : String)
  deriving DecidableEq

/-- Names that can stand in a reference: they are not empty, and hold no closing brace. -/
def IsName (name : String) : Prop :=
  name ≠ "" ∧ '\x7d' ∉ name.toList

/-- A text that starts with a reference. -/
def StartsReference (text : List Char) : Prop :=
  ∃ name rest, IsName name ∧ text = reference name ++ rest

/--
A text read from left to right: where a reference starts, all of it is one piece, and everywhere
else the next character is.
-/
inductive Reads : List Char → List Piece → Prop
  | nil : Reads [] []
  | reference {name : String} {rest : List Char} {pieces : List Piece} (named : IsName name)
      (later : Reads rest pieces) : Reads (reference name ++ rest) (.reference name :: pieces)
  | char {c : Char} {rest : List Char} {pieces : List Piece}
      (plain : ¬StartsReference (c :: rest)) (later : Reads rest pieces) :
      Reads (c :: rest) (.char c :: pieces)

/-- The names that some pieces refer to, from left to right. -/
def names (pieces : List Piece) : List String :=
  pieces.filterMap fun
    | .char _ => none
    | .reference name => some name

/-- A character names nothing. -/
@[simp] theorem names_char (c : Char) (pieces : List Piece) :
    names (.char c :: pieces) = names pieces :=
  rfl

/-- A reference names its variable. -/
@[simp] theorem names_reference (name : String) (pieces : List Piece) :
    names (.reference name :: pieces) = name :: names pieces :=
  rfl

/-- The text of a piece in which some names have been replaced by their values. -/
def Piece.text (values : String → String) (done : List String) : Piece → List Char
  | .char c => [c]
  | .reference name => if name ∈ done then (values name).toList else Environment.reference name

/-- The text of an entry in which some names have been replaced by their values. -/
def replaced (values : String → String) (done : List String) (pieces : List Piece) : List Char :=
  pieces.flatMap (Piece.text values done)

/-- Each piece has its place in the text. -/
theorem replaced_cons (values : String → String) (done : List String) (piece : Piece)
    (pieces : List Piece) :
    replaced values done (piece :: pieces) =
      piece.text values done ++ replaced values done pieces :=
  rfl

/-- An entry in which every reference stands for the value of its variable. -/
def substituted (values : String → String) (pieces : List Piece) : String :=
  String.ofList (pieces.flatMap fun
    | .char c => [c]
    | .reference name => (values name).toList)

/-- Two texts without a closing brace are the same if they are followed by the same one. -/
theorem closed_unique {first second left right : List Char} (closed : '\x7d' ∉ first)
    (also : '\x7d' ∉ second) (same : first ++ '\x7d' :: left = second ++ '\x7d' :: right) :
    first = second ∧ left = right := by
  -- Both are what stands before the first closing brace.
  have cut := Text.splitFirst?_append closed left
  rw [same, Text.splitFirst?_append also right] at cut
  obtain ⟨rfl, rfl⟩ := Prod.mk.inj (Option.some.inj cut)
  exact ⟨rfl, rfl⟩

/-- The text of a reference, with what follows it. -/
theorem reference_append (name : String) (rest : List Char) :
    reference name ++ rest = '$' :: '\x7b' :: (name.toList ++ '\x7d' :: rest) := by
  -- The brackets of the reference are written out, and the name is kept.
  simp [reference]

/-- A name is found between the braces, and the text after it is kept. -/
theorem referenceName?_eq_some {text name rest : List Char} :
    referenceName? text = some (name, rest) ↔
      name ≠ [] ∧ '\x7d' ∉ name ∧ text = name ++ '\x7d' :: rest := by
  constructor
  · intro found
    unfold referenceName? at found
    split at found
    · cases found
    · rename_i nonempty
      obtain ⟨joined, absent⟩ := Text.splitFirst?_eq_some found
      refine ⟨fun empty => nonempty rest ?_, absent, joined⟩
      rw [found, empty]
  · rintro ⟨nonempty, absent, rfl⟩
    -- The cut is at this closing brace, and what stands before it is a name.
    unfold referenceName?
    rw [Text.splitFirst?_append absent]
    cases name with
    | nil => exact absurd rfl nonempty
    | cons c name => rfl

/-- After an opening brace, a name is found exactly if a reference starts there. -/
theorem referenceName?_isSome_iff (rest : List Char) :
    (∃ name after, referenceName? rest = some (name, after)) ↔
      StartsReference ('$' :: '\x7b' :: rest) := by
  -- Both sides are read off the cut at the first closing brace.
  constructor
  · rintro ⟨name, after, found⟩
    obtain ⟨nonempty, closed, rfl⟩ := referenceName?_eq_some.mp found
    refine ⟨String.ofList name, after, ⟨?_, by simpa using closed⟩, by simp [reference]⟩
    intro empty
    exact nonempty (by simpa using congrArg String.toList empty)
  · rintro ⟨name, after, ⟨nonempty, closed⟩, same⟩
    rw [reference_append] at same
    refine ⟨name.toList, after, referenceName?_eq_some.mpr ⟨?_, closed, by simpa using same⟩⟩
    simpa using nonempty

/-- The names in an entry are those of its references, in their order. -/
theorem referencesFrom_eq {written : List Char} {pieces : List Piece} (read : Reads written pieces)
    {fuel : Nat} (enough : written.length ≤ fuel) : referencesFrom fuel written = names pieces := by
  -- The induction is on the reading; each step of the search goes over one piece.
  induction read generalizing fuel with
  | nil => cases fuel <;> rfl
  | @reference name rest pieces named later ih =>
    rw [reference_append] at enough ⊢
    cases fuel with
    | zero => simp at enough
    | succ fuel =>
      have found : referenceName? (name.toList ++ '\x7d' :: rest) = some (name.toList, rest) :=
        referenceName?_eq_some.mpr ⟨by simpa using named.1, named.2, rfl⟩
      simp only [referencesFrom, found, String.ofList_toList]
      rw [ih (by simp at enough; omega)]
      rfl
  | @char c rest pieces plain later ih =>
    cases fuel with
    | zero => simp at enough
    | succ fuel =>
      have next : referencesFrom fuel rest = names pieces := ih (by simpa using enough)
      by_cases braced : ∃ after, c = '$' ∧ rest = '\x7b' :: after
      · -- No name is found here, since no reference starts here.
        obtain ⟨after, rfl, rfl⟩ := braced
        have unnamed : referenceName? after = none :=
          Option.eq_none_iff_forall_ne_some.mpr fun found same =>
            plain ((referenceName?_isSome_iff after).mp ⟨found.1, found.2, same⟩)
        simp only [referencesFrom, unnamed]
        exact next
      · rw [referencesFrom]
        · exact next
        · exact fun after first second => braced ⟨after, first, second⟩

/-- Every text can be read. -/
theorem exists_reads (written : List Char) : ∃ pieces, Reads written pieces := by
  -- The induction is on the length, since a reference takes more than one character.
  induction size : written.length using Nat.strongRecOn generalizing written with
  | ind bound ih =>
    cases written with
    | nil => exact ⟨[], .nil⟩
    | cons c rest =>
      by_cases starts : StartsReference (c :: rest)
      · -- The whole reference is one piece, and what follows it is shorter.
        obtain ⟨name, after, named, same⟩ := starts
        have shorter : after.length < bound := by
          rw [← size, same, reference_append]
          simp
          omega
        obtain ⟨pieces, later⟩ := ih _ shorter after rfl
        exact ⟨.reference name :: pieces, by rw [same]; exact .reference named later⟩
      · obtain ⟨pieces, later⟩ := ih rest.length (by rw [← size]; simp) rest rfl
        exact ⟨_, .char starts later⟩

/-- A text can be read in one way only. -/
theorem Reads.unique {written : List Char} {pieces other : List Piece}
    (read : Reads written pieces) (also : Reads written other) : other = pieces := by
  -- The induction is on the first reading; the second one starts with the same piece.
  induction read generalizing other with
  | nil =>
    generalize same : ([] : List Char) = written at also
    cases also with
    | nil => rfl
    | reference named later => simp [Environment.reference] at same
    | char plain later => cases same
  | @reference name rest pieces named later ih =>
    generalize same : Environment.reference name ++ rest = written at also
    cases also with
    | nil => simp [Environment.reference] at same
    | @reference name' rest' other named' later' =>
      -- Both names end at the first closing brace.
      rw [reference_append, reference_append] at same
      obtain ⟨name_eq, rfl⟩ := closed_unique named.2 named'.2 (by simpa using same)
      rw [ih later', String.toList_inj.mp name_eq]
    | char plain later' => exact absurd ⟨name, rest, named, same.symm⟩ plain
  | @char c rest pieces plain later ih =>
    generalize same : c :: rest = written at also
    cases also with
    | nil => cases same
    | @reference name' rest' other named' later' =>
      exact absurd ⟨name', rest', named', same⟩ plain
    | char plain' later' =>
      obtain ⟨rfl, rfl⟩ := List.cons.inj same
      rw [ih later']

/-- Only names can be referred to. -/
theorem Reads.isName {written : List Char} {pieces : List Piece} (read : Reads written pieces) :
    ∀ name ∈ names pieces, IsName name := by
  -- The induction is on the reading, in which every reference was one of a name.
  induction read with
  | nil => simp [names]
  | reference named later ih => simpa using ⟨named, ih⟩
  | char plain later ih => exact ih

/-- A copy of a word is replaced, and the search goes on after it. -/
theorem replaceFrom_copy {word : List Char} (nonempty : word ≠ []) (value rest : List Char)
    (fuel : Nat) : replaceFrom word value (fuel + 1) (word ++ rest) =
      value ++ replaceFrom word value fuel rest := by
  -- The word is not empty, so the search moves on at its first character.
  cases word with
  | nil => exact absurd rfl nonempty
  | cons s word =>
    have found : Text.afterStart? (s :: word) (s :: (word ++ rest)) = some rest :=
      Text.afterStart?_eq_some.mpr rfl
    simp only [List.cons_append, replaceFrom, found]

/-- Where no copy of a word starts, the text is kept. -/
theorem replaceFrom_keep {word passed rest : List Char} (value : List Char)
    (clear : ∀ back, back ≠ [] → back <:+ passed → ¬word <+: back ++ rest) {fuel : Nat}
    (enough : passed.length ≤ fuel) :
    replaceFrom word value fuel (passed ++ rest) =
      passed ++ replaceFrom word value (fuel - passed.length) rest := by
  -- The induction is on the text that is passed, one character at a time.
  induction passed generalizing fuel with
  | nil => rfl
  | cons c passed ih =>
    cases fuel with
    | zero => simp at enough
    | succ fuel =>
      have within : passed.length ≤ fuel := by simpa using enough
      have next := ih (fun back nonempty inside =>
        clear back nonempty (inside.trans (List.suffix_cons c passed))) within
      have absent : Text.afterStart? word (c :: (passed ++ rest)) = none := by
        refine Option.eq_none_iff_forall_ne_some.mpr fun after found => ?_
        refine clear (c :: passed) (by simp) List.suffix_rfl ⟨after, ?_⟩
        exact (Text.afterStart?_eq_some.mp found).symm
      simp only [List.cons_append, replaceFrom, absent, next, List.length_cons,
        Nat.add_sub_add_right]

/-- A copy of a reference starts with its opening, and holds its name up to the closing brace. -/
theorem copy_shape {name : String} {written : List Char} (copy : reference name <+: written) :
    ∃ after, written = '$' :: '\x7b' :: (name.toList ++ '\x7d' :: after) := by
  -- The reference is written out up to its closing brace.
  obtain ⟨after, rfl⟩ := copy
  exact ⟨after, reference_append name after⟩

/--
A value of which no reference can be made: it opens none, ends with the start of no opening, and
completes no opening that is written right before it.
-/
structure Settled (values : String → String) (pieces : List Piece) (name : String) : Prop where
  unopened : ¬['$', '\x7b'] <:+: (values name).toList
  ending : ¬['$'] <:+ (values name).toList
  joint : [.char '$', .reference name] <:+: pieces →
    ∃ c rest, (values name).toList = c :: rest ∧ c ≠ '\x7b'

/-- What is harmless in an entry is harmless in the rest of it. -/
theorem Settled.tail {values : String → String} {piece : Piece} {pieces : List Piece}
    {name : String} (settled : Settled values (piece :: pieces) name) :
    Settled values pieces name :=
  ⟨settled.unopened, settled.ending, fun found =>
    settled.joint (found.trans (List.suffix_cons piece pieces).isInfix)⟩

/-- No copy of a reference starts in a value of which no reference can be made. -/
theorem Settled.clear {values : String → String} {pieces : List Piece} {name : String}
    (settled : Settled values pieces name) (asked : String) (rest : List Char) :
    ∀ back, back ≠ [] → back <:+ (values name).toList → ¬reference asked <+: back ++ rest := by
  intro back nonempty within copy
  obtain ⟨after, same⟩ := copy_shape copy
  -- The opening would begin in the value, and end in it or right behind it.
  cases back with
  | nil => exact nonempty rfl
  | cons first back =>
    simp only [List.cons_append, List.cons.injEq] at same
    obtain ⟨rfl, same⟩ := same
    cases back with
    | nil => exact settled.ending within
    | cons second back =>
      simp only [List.cons_append, List.cons.injEq] at same
      obtain ⟨rfl, -⟩ := same
      exact settled.unopened
        ((List.prefix_append ['$', '\x7b'] back).isInfix.trans within.isInfix)

/-- No copy of a reference starts in another one, unless that one ends with its text. -/
theorem reference_clear {name asked : String} (named : IsName name) (closed : IsName asked)
    (other : name ≠ asked) (apart : ¬ '$' :: '\x7b' :: asked.toList <:+ name.toList)
    (rest : List Char) :
    ∀ back, back ≠ [] → back <:+ reference name → ¬reference asked <+: back ++ rest := by
  intro back nonempty within copy
  obtain ⟨after, same⟩ := copy_shape copy
  -- Up to its closing brace, the other reference would end with the opening and the name.
  rw [reference, ← List.cons_append, ← List.cons_append] at within
  rcases List.suffix_concat_iff.mp within with empty | ⟨start, rfl, inside⟩
  · exact nonempty empty
  have unclosed : '\x7d' ∉ start := fun found => by
    have := inside.subset found
    simp [named.2] at this
  have closing : '\x7d' ∉ '$' :: '\x7b' :: asked.toList := by simp [closed.2]
  obtain ⟨rfl, -⟩ := closed_unique unclosed closing (by simpa using same)
  rcases List.suffix_cons_iff.mp inside with whole | shorter
  · exact other (String.toList_inj.mp (by simpa using whole.symm))
  · rcases List.suffix_cons_iff.mp shorter with whole | shorter
    · cases whole
    · exact apart shorter

/-- What is written without a closing brace holds no reference. -/
theorem Reads.names_eq_nil {written : List Char} {pieces : List Piece}
    (read : Reads written pieces) (unclosed : '\x7d' ∉ written) :
    pieces = written.map .char := by
  -- A reference would have brought a closing brace along.
  induction read with
  | nil => rfl
  | reference named later ih => simp [Environment.reference] at unclosed
  | char plain later ih => rw [ih (by simp_all), List.map_cons]

/-- Only a dollar sign can start a reference. -/
theorem Reads.char_of_ne {c : Char} {rest : List Char} {pieces : List Piece}
    (read : Reads (c :: rest) pieces) (other : c ≠ '$') :
    ∃ later, pieces = .char c :: later := by
  -- A reference in front would have started with the dollar sign.
  generalize same : c :: rest = written at read
  cases read with
  | nil => cases same
  | reference named later => exact absurd (List.cons.inj same).1 other
  | char plain later =>
    obtain ⟨rfl, -⟩ := List.cons.inj same
    exact ⟨_, rfl⟩

/-- An opening without a reference is closed at once, or never. -/
theorem closed_at_once {rest : List Char} (plain : ¬StartsReference ('$' :: '\x7b' :: rest))
    (closed : '\x7d' ∈ rest) : ∃ after, rest = '\x7d' :: after := by
  -- The text is cut at its first closing brace.
  cases cut : Text.splitFirst? '\x7d' rest with
  | none => exact absurd closed (Text.splitFirst?_eq_none.mp cut)
  | some parts =>
    obtain ⟨name, after⟩ := parts
    obtain ⟨rfl, absent⟩ := Text.splitFirst?_eq_some cut
    -- A name before the closing brace would make it a reference.
    cases name with
    | nil => exact ⟨after, rfl⟩
    | cons c name =>
      refine absurd ((referenceName?_isSome_iff _).mp ⟨c :: name, after, ?_⟩) plain
      exact referenceName?_eq_some.mpr ⟨by simp, absent, rfl⟩

/-- Characters of an entry are kept, whatever is replaced. -/
theorem replaced_map_char (values : String → String) (done : List String) (written : List Char) :
    replaced values done (written.map .char) = written := by
  -- No character stands for a value.
  induction written with
  | nil => rfl
  | cons c rest ih => exact congrArg (c :: ·) ih

/-- No copy of a reference starts with a character that is written outside of all references. -/
theorem char_clear {values : String → String} {done : List String} {c : Char} {rest : List Char}
    {pieces : List Piece} (plain : ¬StartsReference (c :: rest)) (later : Reads rest pieces)
    (settled : ∀ name ∈ done, Settled values (.char c :: pieces) name) {asked : String}
    (named : IsName asked) : ¬reference asked <+: c :: replaced values done pieces := by
  intro copy
  obtain ⟨after, same⟩ := copy_shape copy
  obtain ⟨rfl, opened⟩ := List.cons.inj same
  -- The brace of the opening would come from the piece after the character.
  cases later with
  | nil => cases opened
  | @reference name rest pieces isName later =>
    by_cases known : name ∈ done
    · -- A value that stands there does not begin with the brace.
      obtain ⟨first, others, value, apart⟩ :=
        (settled name known).joint (List.prefix_append [_, _] pieces).isInfix
      simp only [replaced, List.flatMap_cons, Piece.text, if_pos known, value] at opened
      exact apart (List.cons.inj opened).1
    · -- A reference that waits for its turn begins with a dollar sign.
      simp only [replaced, List.flatMap_cons, Piece.text, if_neg known] at opened
      rw [reference_append] at opened
      cases (List.cons.inj opened).1
  | @char c rest pieces plain' later =>
    obtain ⟨rfl, copied⟩ := List.cons.inj opened
    by_cases closed : '\x7d' ∈ rest
    · -- The name of the copy would start with the brace that closes the opening at once.
      obtain ⟨after', rfl⟩ := closed_at_once plain closed
      obtain ⟨others, rfl⟩ := later.char_of_ne (by decide)
      cases split : asked.toList with
      | nil => exact named.1 (String.toList_inj.mp split)
      | cons first name =>
        rw [split] at copied
        exact named.2 (by rw [split, ← (List.cons.inj copied).1]; exact List.mem_cons_self)
    · -- Without a brace in the rest, nothing is replaced there, and the copy is not closed.
      rw [later.names_eq_nil closed] at copied
      have kept : rest = asked.toList ++ '\x7d' :: after :=
        (replaced_map_char values done rest).symm.trans copied
      exact closed (by simp [kept])

/-- One more name is replaced, and everything else stays as it is. -/
theorem replaceFrom_replaced {values : String → String} {done : List String} {asked : String}
    (named : IsName asked) {written : List Char} {pieces : List Piece}
    (read : Reads written pieces) (settled : ∀ name ∈ done, Settled values pieces name)
    (apart : ∀ name ∈ names pieces, name ∉ done → name ≠ asked →
      ¬ '$' :: '\x7b' :: asked.toList <:+ name.toList) {fuel : Nat}
    (enough : (replaced values done pieces).length ≤ fuel) :
    replaceFrom (reference asked) (values asked).toList fuel (replaced values done pieces) =
      replaced values (asked :: done) pieces := by
  -- The induction is on the reading: each piece is passed, or it is a reference to this name.
  induction read generalizing fuel with
  | nil => cases fuel <;> rfl
  | @reference name rest pieces isName later ih =>
    have settledLater : ∀ known ∈ done, Settled values pieces known :=
      fun known among => (settled known among).tail
    have apartLater : ∀ next ∈ names pieces, next ∉ done → next ≠ asked →
        ¬ '$' :: '\x7b' :: asked.toList <:+ next.toList :=
      fun next among => apart next (List.mem_cons_of_mem name among)
    rw [replaced_cons, List.length_append] at enough
    rw [replaced_cons, replaced_cons]
    by_cases known : name ∈ done
    · -- A value that stands here already is passed.
      simp only [Piece.text, if_pos known, if_pos (List.mem_cons_of_mem asked known)] at enough ⊢
      rw [replaceFrom_keep _ ((settled name known).clear asked _) (by omega),
        ih settledLater apartLater (by omega)]
    · by_cases same : name = asked
      · -- This is a copy of the reference.
        subst same
        have nonempty : Environment.reference name ≠ [] := by simp [Environment.reference]
        have long := List.length_pos_iff.mpr nonempty
        simp only [Piece.text, if_neg known, if_pos List.mem_cons_self] at enough ⊢
        cases fuel with
        | zero => omega
        | succ fuel => rw [replaceFrom_copy nonempty, ih settledLater apartLater (by omega)]
      · -- This is a reference to another name, and it waits for its turn.
        have waits : name ∉ asked :: done := by simp [same, known]
        have clear := reference_clear isName named same
          (apart name List.mem_cons_self known same) (replaced values done pieces)
        simp only [Piece.text, if_neg known, if_neg waits] at enough ⊢
        rw [replaceFrom_keep _ clear (by omega), ih settledLater apartLater (by omega)]
  | @char c rest pieces plain later ih =>
    have clear := char_clear plain later settled named
    rw [replaced_cons, List.length_append] at enough
    rw [replaced_cons, replaced_cons]
    simp only [Piece.text] at enough ⊢
    rw [replaceFrom_keep _ (fun back nonempty within => ?_) (by omega),
      ih (fun known among => (settled known among).tail) apart (by omega)]
    -- The character is all that is passed.
    rcases List.suffix_cons_iff.mp within with rfl | empty
    · exact clear
    · exact absurd (List.suffix_nil.mp empty) nonempty

/--
An order in which names can be replaced one after another. No reference can be made of the values
that stand in the entry while others are replaced, and no reference that waits for its turn ends
with the text of one that is replaced before.
-/
structure Harmless (values : String → String) (pieces : List Piece) (order : List String) :
    Prop where
  values : ∀ name ∈ order.dropLast, Settled values pieces name
  names : order.Pairwise fun earlier later =>
    ¬ '$' :: '\x7b' :: earlier.toList <:+ later.toList

/-- Values that hold no dollar sign, are not empty, and do not begin with an opening brace. -/
def IsPlain (value : String) : Prop :=
  '$' ∉ value.toList ∧ ∃ c rest, value.toList = c :: rest ∧ c ≠ '\x7b'

/-- Plain values can be put in for names without a dollar sign in any order. -/
theorem harmless_of_plain {values : String → String} {pieces : List Piece} {order : List String}
    (plain : ∀ name ∈ order, '$' ∉ name.toList ∧ IsPlain (values name)) :
    Harmless values pieces order where
  -- Neither the values nor the names hold a dollar sign, with which every opening begins.
  values name member := by
    obtain ⟨_, undollared, start⟩ := plain name (List.mem_of_mem_dropLast member)
    exact ⟨fun found => undollared (found.subset List.mem_cons_self),
      fun found => undollared (found.subset List.mem_cons_self), fun _ => start⟩
  names := List.pairwise_of_forall_mem_list fun _ _ later member found =>
    (plain later member).1 (found.subset List.mem_cons_self)

/-- The text of an entry is the one in which nothing is replaced yet. -/
theorem Reads.replaced_nil {written : List Char} {pieces : List Piece}
    (read : Reads written pieces) (values : String → String) :
    replaced values [] pieces = written := by
  -- The induction is on the reading, of which each piece is written as it was.
  induction read with
  | nil => rfl
  | reference named later ih => rw [replaced_cons, ih]; rfl
  | char plain later ih => rw [replaced_cons, ih]; rfl

/-- When all names have been replaced, every reference stands for a value. -/
theorem replaced_all {values : String → String} {done : List String} {pieces : List Piece}
    (covered : ∀ name ∈ names pieces, name ∈ done) :
    String.ofList (replaced values done pieces) = substituted values pieces := by
  -- The induction is on the pieces, each of which has come to its value.
  refine congrArg String.ofList ?_
  induction pieces with
  | nil => rfl
  | cons piece pieces ih =>
    cases piece with
    | char c => exact congrArg (c :: ·) (ih covered)
    | reference name =>
      obtain ⟨here, later⟩ := List.forall_mem_cons.mp covered
      rw [replaced_cons, List.flatMap_cons, ih later, Piece.text, if_pos here]

/-- Names that are replaced in a harmless order all come to stand for their values. -/
theorem substitute_replaced {environment : Environment} {values : String → String}
    {written : List Char} {pieces : List Piece} (read : Reads written pieces) {todo : List String}
    (known : ∀ name ∈ todo, IsName name ∧ environment.get? name = some (values name))
    {done : List String} (covered : ∀ name ∈ names pieces, name ∈ done ∨ name ∈ todo)
    (settled : todo ≠ [] → ∀ name ∈ done, Settled values pieces name)
    (harmless : Harmless values pieces todo) :
    environment.substitute todo (String.ofList (replaced values done pieces)) =
      .ok (substituted values pieces) := by
  -- The induction is on the names that are left.
  induction todo generalizing done with
  | nil =>
    rw [substitute, replaced_all fun name member => (covered name member).resolve_right (by simp)]
  | cons asked todo ih =>
    obtain ⟨⟨named, value⟩, knownLater⟩ := List.forall_mem_cons.mp known
    obtain ⟨apart, namesLater⟩ := List.pairwise_cons.mp harmless.names
    have step : replace asked (values asked) (String.ofList (replaced values done pieces)) =
        String.ofList (replaced values (asked :: done) pieces) := by
      rw [replace, String.toList_ofList]
      refine congrArg String.ofList
        (replaceFrom_replaced named read (settled (by simp)) ?_ (Nat.le_refl _))
      intro next member waits other
      have left : next ∈ asked :: todo := (covered next member).resolve_left waits
      exact apart next ((List.mem_cons.mp left).resolve_left other)
    simp only [substitute, value, step]
    refine ih knownLater (fun name member => ?_) (fun more => ?_)
      ⟨fun name member => ?_, namesLater⟩
    · rcases covered name member with before | here
      · exact .inl (List.mem_cons_of_mem asked before)
      · rcases List.mem_cons.mp here with rfl | later
        · exact .inl List.mem_cons_self
        · exact .inr later
    · -- The value that is new stands in the entry while the others are replaced.
      refine List.forall_mem_cons.mpr ⟨harmless.values asked ?_, settled (by simp)⟩
      rw [List.dropLast_cons_of_ne_nil more]
      exact List.mem_cons_self
    · refine harmless.values name ?_
      rw [List.dropLast_cons_of_ne_nil (List.ne_nil_of_mem (List.mem_of_mem_dropLast member))]
      exact List.mem_cons_of_mem asked member

/-- Two references with a character between them are read as such, unless it opens one itself. -/
theorem reads_between {first second : String} {c : Char} (named : IsName first)
    (also : IsName second) (other : c ≠ '$') :
    Reads (reference first ++ c :: (reference second ++ []))
      [.reference first, .char c, .reference second] := by
  -- The character opens nothing, so it stands for itself.
  have plain : ¬StartsReference (c :: (reference second ++ [])) := by
    rintro ⟨name, rest, -, same⟩
    exact other (List.cons.inj same).1
  exact .reference named (.char plain (.reference also .nil))

/-- Names can be replaced whenever they all have values. -/
theorem exists_substitute {environment : Environment} {order : List String}
    (known : ∀ name ∈ order, ∃ value, environment.get? name = some value) (entry : String) :
    ∃ result, environment.substitute order entry = .ok result := by
  -- The induction is on the names, whatever the entry becomes on the way.
  induction order generalizing entry with
  | nil => exact ⟨entry, rfl⟩
  | cons name order ih =>
    obtain ⟨⟨value, found⟩, later⟩ := List.forall_mem_cons.mp known
    obtain ⟨result, done⟩ := ih later (replace name value entry)
    exact ⟨result, by simp only [substitute, found, done]⟩

/--
An entry has one reading, and it can be resolved whenever all variables in it have values. The
result is the entry with every reference replaced by its value at once if the order of the
references is harmless, as it is for plain values, and so is that of any other harmless order of the
same names.
-/
theorem resolve_substitutes (environment : Environment) (entry : String) :
    ∃ pieces, (∀ other, Reads entry.toList other ↔ other = pieces) ∧
      ∀ values : String → String,
        (∀ name ∈ names pieces, environment.get? name = some (values name)) →
        (∃ result, environment.resolve entry = .ok result) ∧
        (Harmless values pieces (names pieces) →
          environment.resolve entry = .ok (substituted values pieces)) ∧
        ((∀ name ∈ names pieces, '$' ∉ name.toList ∧ IsPlain (values name)) →
          environment.resolve entry = .ok (substituted values pieces)) ∧
        ∀ order : List String, (∀ name, name ∈ order ↔ name ∈ names pieces) →
          Harmless values pieces order →
          environment.substitute order entry = .ok (substituted values pieces) := by
  obtain ⟨pieces, read⟩ := exists_reads entry.toList
  refine ⟨pieces, fun other => ⟨read.unique, fun same => same ▸ read⟩, fun values known => ?_⟩
  -- The references are replaced in the order in which they are read.
  have referred : references entry = names pieces := referencesFrom_eq read (Nat.le_refl _)
  have ordered : ∀ order : List String, (∀ name, name ∈ order ↔ name ∈ names pieces) →
      Harmless values pieces order →
      environment.substitute order entry = .ok (substituted values pieces) := by
    intro order same harmless
    have start : String.ofList (replaced values [] pieces) = entry := by
      rw [read.replaced_nil values, String.ofList_toList]
    rw [← start]
    refine substitute_replaced read (fun name member => ?_) (fun name member => ?_) (by simp)
      harmless
    · have among := (same name).mp member
      exact ⟨read.isName name among, known name among⟩
    · exact .inr ((same name).mpr member)
  have resolved (harmless : Harmless values pieces (names pieces)) :
      environment.resolve entry = .ok (substituted values pieces) := by
    rw [resolve, referred]
    exact ordered (names pieces) (fun _ => Iff.rfl) harmless
  refine ⟨?_, resolved, fun plain => resolved (harmless_of_plain plain), ordered⟩
  rw [resolve, referred]
  exact exists_substitute (fun name member => ⟨values name, known name member⟩) entry

/--
A value may hold a dollar sign and a closing brace, and the last one may even hold a reference; both
are put in as they are.
-/
theorem resolve_substitutes_dollar :
    let environment : Environment := fun name =>
      if name = "A" then some (Utf8.encode "$5\x7d".toList)
      else if name = "B" then some (Utf8.encode "$\x7bA\x7d".toList)
      else none
    let values : String → String := fun name => if name = "A" then "$5\x7d" else "$\x7bA\x7d"
    let pieces : List Piece := [.reference "A", .char 'x', .reference "B"]
    (∀ name ∈ names pieces, environment.get? name = some (values name)) ∧
      Harmless values pieces (names pieces) ∧
      environment.resolve "$\x7bA\x7dx$\x7bB\x7d" = .ok "$5\x7dx$\x7bA\x7d" := by
  intro environment values pieces
  have first : environment.get? "A" = some "$5\x7d" := by decide +kernel
  have second : environment.get? "B" = some "$\x7bA\x7d" := by decide +kernel
  have read : Reads (reference "A" ++ 'x' :: (reference "B" ++ [])) pieces :=
    reads_between (by constructor <;> decide) (by constructor <;> decide) (by decide)
  have known : ∀ name ∈ names pieces, environment.get? name = some (values name) := by
    intro name among
    rcases List.mem_cons.mp among with rfl | among
    · exact first
    · obtain rfl := List.mem_singleton.mp among
      exact second
  -- The first value is the only one that others are put in after.
  have settled : Settled values pieces "A" :=
    ⟨by decide, by decide, fun _ => ⟨'$', ['5', '\x7d'], by decide, by decide⟩⟩
  have harmless : Harmless values pieces (names pieces) := by
    refine ⟨?_, by decide⟩
    intro name among
    obtain rfl : name = "A" := List.mem_singleton.mp among
    exact settled
  obtain ⟨reading, unique, resolves⟩ := resolve_substitutes environment "$\x7bA\x7dx$\x7bB\x7d"
  have same : pieces = reading := (unique pieces).mp read
  subst same
  have result : substituted values pieces = "$5\x7dx$\x7bA\x7d" := by decide +kernel
  exact ⟨known, harmless, result ▸ (resolves values known).2.1 harmless⟩

/-- What stands in a value is replaced with the references that are written after it. -/
theorem resolve_rewrites_values :
    let environment : Environment := fun name =>
      if name = "A" then some (Utf8.encode "$\x7bB\x7d".toList)
      else if name = "B" then some (Utf8.encode "b".toList)
      else none
    let values : String → String := fun name => if name = "A" then "$\x7bB\x7d" else "b"
    let pieces : List Piece := [.reference "A", .char 'x', .reference "B"]
    Reads "$\x7bA\x7dx$\x7bB\x7d".toList pieces ∧
      (∀ name ∈ names pieces, environment.get? name = some (values name)) ∧
      environment.resolve "$\x7bA\x7dx$\x7bB\x7d" = .ok "bxb" ∧
      environment.substitute ["B", "A"] "$\x7bA\x7dx$\x7bB\x7d" = .ok "$\x7bB\x7dxb" ∧
      substituted values pieces = "$\x7bB\x7dxb" := by
  intro environment values pieces
  have first : environment.get? "A" = some "$\x7bB\x7d" := by decide +kernel
  have second : environment.get? "B" = some "b" := by decide +kernel
  have read : Reads (reference "A" ++ 'x' :: (reference "B" ++ [])) pieces :=
    reads_between (by constructor <;> decide) (by constructor <;> decide) (by decide)
  refine ⟨read, ?_, ?_, ?_, ?_⟩
  · intro name among
    rcases List.mem_cons.mp among with rfl | among
    · exact first
    · obtain rfl := List.mem_singleton.mp among
      exact second
  · -- The value of the first variable is a reference, and the second step replaces it as well.
    have referred : references "$\x7bA\x7dx$\x7bB\x7d" = ["A", "B"] := by decide +kernel
    rw [resolve, referred]
    simp only [substitute, first, second]
    decide +kernel
  · simp only [substitute, first, second]
    decide +kernel
  · decide +kernel

end ServiceCall.Environment
