import Mathlib.Data.Finset.Card
import ServiceCall.Http.Request

/-!
Header fields after any run of additions and replacements. They are told by the operations alone:
the names are those of the operations, each once and in its first spelling, and a name has the
values of its last replacement and those added since.
-/

namespace ServiceCall

namespace Text

/-- Names in the order of their first occurrence, each as it is spelled there. -/
def firstSpellings : List String → List String
  | [] => []
  | name :: later => name :: (firstSpellings later).filter fun other => !sameIgnoringCase name other

/-- Every name keeps one of its spellings. -/
theorem mem_caseKey_firstSpellings (names : List String) (key : List Char) :
    key ∈ (firstSpellings names).map caseKey ↔ key ∈ names.map caseKey := by
  -- The induction is on the names; what the first one leaves out is spelled like it.
  induction names with
  | nil => rfl
  | cons name later ih =>
    rw [firstSpellings, List.map_cons, List.map_cons, List.mem_cons, List.mem_cons, ← ih]
    by_cases here : key = caseKey name
    · simp [here]
    · -- The spellings that are left out all have the key of the first one.
      simp only [here, false_or, List.mem_map, List.mem_filter, Bool.not_eq_true',
        ← Bool.not_eq_true, sameIgnoringCase_iff]
      constructor
      · rintro ⟨other, ⟨member, -⟩, same⟩
        exact ⟨other, member, same⟩
      · rintro ⟨other, member, rfl⟩
        exact ⟨other, ⟨member, fun same => here same.symm⟩, rfl⟩

/-- No name is spelled twice. -/
theorem nodup_caseKey_firstSpellings (names : List String) :
    ((firstSpellings names).map caseKey).Nodup := by
  -- The induction is on the names, of which the later ones keep apart as they were.
  induction names with
  | nil => exact List.nodup_nil
  | cons name later ih =>
    rw [firstSpellings, List.map_cons, List.nodup_cons]
    constructor
    · -- The spellings with the key of the first one have been left out.
      intro found
      obtain ⟨other, member, same⟩ := List.mem_map.mp found
      have apart := (List.mem_filter.mp member).2
      simp [sameIgnoringCase, same] at apart
    · exact ih.sublist (List.filter_sublist.map caseKey)

/-- A name that follows is added if it is new, and else its first spelling stays. -/
theorem firstSpellings_concat (names : List String) (name : String) :
    firstSpellings (names ++ [name]) =
      if caseKey name ∈ names.map caseKey then firstSpellings names
      else firstSpellings names ++ [name] := by
  -- The induction is on the names; the one at the end meets each of them in turn.
  induction names with
  | nil => rfl
  | cons first later ih =>
    rw [List.cons_append, firstSpellings, ih, firstSpellings, List.map_cons]
    by_cases known : caseKey name ∈ later.map caseKey
    · rw [if_pos known, if_pos (List.mem_cons_of_mem _ known)]
    · rw [if_neg known, List.filter_append]
      by_cases here : caseKey name = caseKey first
      · -- The new spelling is left out because of the first name.
        simp [sameIgnoringCase, here]
      · rw [if_neg (by simp [here, known])]
        simp [sameIgnoringCase, Ne.symm here]

/-- There are as many first spellings as there are names up to case. -/
theorem length_firstSpellings (names : List String) :
    (firstSpellings names).length = (names.map caseKey).toFinset.card := by
  -- The keys of the first spellings are those of all names, and none of them comes twice.
  have same : (names.map caseKey).toFinset = ((firstSpellings names).map caseKey).toFinset := by
    ext key
    rw [List.mem_toFinset, List.mem_toFinset, mem_caseKey_firstSpellings]
  rw [same, List.toFinset_card_of_nodup (nodup_caseKey_firstSpellings names), List.length_map]

end Text

namespace Headers

/-- What can be done with header fields. -/
inductive Operation where
  | append (name value : String)
  | insert (name : String) (values : List String)
  deriving DecidableEq

namespace Operation

/-- The name that an operation is about, as it is spelled there. -/
def name : Operation → String
  | .append name _ | .insert name _ => name

/-- What an operation makes of the values of its name. -/
def change : Operation → List String → List String
  | .append _ value, values => values ++ [value]
  | .insert _ values, _ => values

/-- Whether an operation replaces the values of a name. -/
def replaces (asked : String) : Operation → Bool
  | .append _ _ => false
  | .insert name _ => Text.sameIgnoringCase name asked

end Operation

/-- The values that some operations add to a name, in their order. -/
def added (asked : String) (ops : List Operation) : List String :=
  ops.filterMap fun
    | .append name value => if Text.sameIgnoringCase name asked then some value else none
    | .insert _ _ => none

/-- Does one operation with header fields. -/
def perform (headers : Headers) : Operation → Headers
  | .append name value => headers.append name value
  | .insert name values => headers.insert name values

/-- Does some operations with header fields, one after another. -/
def performAll (headers : Headers) (ops : List Operation) : Headers :=
  ops.foldl perform headers

/-- The names of header fields in their order. -/
def names (headers : Headers) : List String :=
  headers.entries.map (·.1)

variable {headers : Headers} {entries : List (String × List String)}

/-- The values of a name are those of the first entry, if that is the name of the entry. -/
theorem get?_cons (entry : String × List String) (asked : String) :
    get? ⟨entry :: entries⟩ asked =
      if Text.caseKey entry.1 = Text.caseKey asked then some entry.2
      else get? ⟨entries⟩ asked := by
  -- The search for a name stops at the first entry with its key.
  simp only [get?, List.find?_cons, Text.sameIgnoringCase]
  by_cases here : Text.caseKey entry.1 = Text.caseKey asked
  · rw [beq_iff_eq.mpr here, if_pos here]
    rfl
  · rw [beq_false_of_ne here, if_neg here]

/-- Spellings of one name have the same values. -/
theorem get?_congr (headers : Headers) {name spelling : String}
    (same : Text.caseKey name = Text.caseKey spelling) :
    headers.get? name = headers.get? spelling := by
  -- Only the key of a name is compared.
  unfold get? Text.sameIgnoringCase
  rw [same]

/-- A name is present if one of the names is a spelling of it. -/
theorem contains_iff {name : String} :
    headers.contains name = true ↔ Text.caseKey name ∈ headers.names.map Text.caseKey := by
  -- The induction is on the entries, which the search passes in their order.
  obtain ⟨entries⟩ := headers
  unfold contains names
  induction entries with
  | nil => simp [get?]
  | cons entry rest ih =>
    rw [get?_cons, List.map_cons, List.map_cons, List.mem_cons, ← ih]
    by_cases here : Text.caseKey entry.1 = Text.caseKey name
    · simp [here]
    · simp [here, Ne.symm here]

/-- A change to a name adds it at the end if it is new, and keeps all the names else. -/
theorem map_updateEntries (name : String) (change : List String → List String)
    (fresh : List String) (entries : List (String × List String)) :
    (updateEntries name change fresh entries).map (·.1) =
      if Text.caseKey name ∈ (entries.map (·.1)).map Text.caseKey then entries.map (·.1)
      else entries.map (·.1) ++ [name] := by
  -- The search passes the entries of other names, and their names stay in front.
  induction entries with
  | nil => rfl
  | cons entry rest ih =>
    obtain ⟨spelling, values⟩ := entry
    by_cases here : Text.caseKey spelling = Text.caseKey name
    · rw [updateEntries, if_pos (Text.sameIgnoringCase_iff.mpr here), if_pos (by simp [here])]
      rfl
    · have passed : Text.sameIgnoringCase spelling name ≠ true :=
        fun same => here (Text.sameIgnoringCase_iff.mp same)
      rw [updateEntries, if_neg passed, List.map_cons, ih]
      by_cases known : Text.caseKey name ∈ (rest.map (·.1)).map Text.caseKey
      · rw [if_pos known]
        exact (if_pos (List.mem_cons_of_mem _ known)).symm
      · rw [if_neg known]
        exact (if_neg (List.not_mem_cons_of_ne_of_not_mem (Ne.symm here) known)).symm

/-- A change to a name sets its values in every spelling, and those of no other name. -/
theorem get?_updateEntries (name : String) (change : List String → List String)
    (fresh : List String) (entries : List (String × List String)) (asked : String) :
    get? ⟨updateEntries name change fresh entries⟩ asked =
      if Text.caseKey name = Text.caseKey asked then
        some (((get? ⟨entries⟩ asked).map change).getD fresh)
      else get? ⟨entries⟩ asked := by
  -- The induction is on the entries; the search for the change and that for the answer go together.
  induction entries with
  | nil =>
    rw [updateEntries, get?_cons]
    rfl
  | cons entry rest ih =>
    obtain ⟨spelling, values⟩ := entry
    by_cases here : Text.caseKey spelling = Text.caseKey name
    · -- This entry is the one that changes.
      rw [updateEntries, if_pos (Text.sameIgnoringCase_iff.mpr here), get?_cons, get?_cons, here]
      by_cases same : Text.caseKey name = Text.caseKey asked
      · rw [if_pos same, if_pos same, if_pos same]
        rfl
      · rw [if_neg same, if_neg same, if_neg same]
    · have passed : Text.sameIgnoringCase spelling name ≠ true :=
        fun same => here (Text.sameIgnoringCase_iff.mp same)
      rw [updateEntries, if_neg passed, get?_cons, get?_cons, ih]
      by_cases first : Text.caseKey spelling = Text.caseKey asked
      · -- This is the entry that is asked for, so its name is not the one that changes.
        rw [if_pos first, if_neg (fun same => here (first.trans same.symm)), if_pos first]
      · rw [if_neg first, if_neg first]

/-- An operation adds its name at the end if it is new, and keeps all the names else. -/
theorem names_perform (headers : Headers) (op : Operation) :
    (headers.perform op).names =
      if Text.caseKey op.name ∈ headers.names.map Text.caseKey then headers.names
      else headers.names ++ [op.name] := by
  -- Both operations are changes to one name.
  cases op with
  | append name value => exact map_updateEntries name _ _ headers.entries
  | insert name values => exact map_updateEntries name _ _ headers.entries

/-- An operation changes the values of its name in every spelling, and those of no other name. -/
theorem get?_perform (headers : Headers) (op : Operation) (asked : String) :
    (headers.perform op).get? asked =
      if Text.caseKey op.name = Text.caseKey asked then
        some (op.change ((headers.get? asked).getD []))
      else headers.get? asked := by
  -- Where the name is new, the operation starts from no values.
  cases op with
  | append name value =>
    refine (get?_updateEntries name _ _ headers.entries asked).trans ?_
    cases headers.get? asked <;> rfl
  | insert name values =>
    refine (get?_updateEntries name _ _ headers.entries asked).trans ?_
    cases headers.get? asked <;> rfl

/-- After any operations the names are the first spellings of all that were given. -/
theorem names_performAll {earlier : List String}
    (known : headers.names = Text.firstSpellings earlier) (ops : List Operation) :
    (headers.performAll ops).names =
      Text.firstSpellings (earlier ++ ops.map Operation.name) := by
  -- The induction is on the operations, each of which gives one more name.
  induction ops generalizing headers earlier with
  | nil =>
    rw [List.map_nil, List.append_nil]
    exact known
  | cons op rest ih =>
    have next : (headers.perform op).names = Text.firstSpellings (earlier ++ [op.name]) := by
      rw [names_perform, Text.firstSpellings_concat, known]
      simp only [Text.mem_caseKey_firstSpellings]
    rw [List.map_cons, List.append_cons]
    exact ih next

/-- What operations without a replacement of a name add stands behind the values it had. -/
theorem get?_performAll {asked : String} {ops : List Operation}
    (kept : ∀ op ∈ ops, op.replaces asked = false) :
    ((headers.performAll ops).get? asked).getD [] =
      (headers.get? asked).getD [] ++ added asked ops := by
  -- Each operation either adds to the values or is about another name.
  induction ops generalizing headers with
  | nil => exact (List.append_nil _).symm
  | cons op rest ih =>
    obtain ⟨here, later⟩ := List.forall_mem_cons.mp kept
    refine (ih later).trans ?_
    rw [get?_perform]
    cases op with
    | append name value =>
      by_cases same : Text.caseKey name = Text.caseKey asked
      · simp [added, Operation.name, Operation.change, Text.sameIgnoringCase, same]
      · simp [added, Operation.name, Text.sameIgnoringCase, same]
    | insert name values =>
      -- A replacement that is allowed here is one of another name.
      have other : Text.caseKey name ≠ Text.caseKey asked := fun same => by
        simp [Operation.replaces, Text.sameIgnoringCase, same] at here
      simp [added, Operation.name, other]

/-- A name that is present has values, if only an empty list of them. -/
theorem get?_of_contains {name : String} (present : headers.contains name = true) :
    headers.get? name = some ((headers.get? name).getD []) := by
  -- To be present is to have an entry.
  obtain ⟨values, found⟩ := Option.isSome_iff_exists.mp present
  rw [found]
  rfl

/-- Where no name is spelled twice, each entry is found by its name. -/
theorem get?_of_mem (distinct : ((entries.map (·.1)).map Text.caseKey).Nodup) :
    ∀ entry ∈ entries, get? ⟨entries⟩ entry.1 = some entry.2 := by
  -- The induction is on the entries, of which the first one hides no other.
  induction entries with
  | nil => simp
  | cons first rest ih =>
    obtain ⟨fresh, later⟩ := List.nodup_cons.mp distinct
    intro entry member
    rw [get?_cons]
    rcases List.mem_cons.mp member with rfl | among
    · rw [if_pos rfl]
    · -- An entry further on has another name than the first one.
      have apart : Text.caseKey first.1 ≠ Text.caseKey entry.1 := fun same =>
        fresh (same ▸ List.mem_map_of_mem (List.mem_map_of_mem among))
      rw [if_neg apart, ih later entry among]

/-- A key that is new is added at the end of a map. -/
theorem assignKey_of_not_mem {key : String} {map : List (String × List String)}
    (fresh : key ∉ map.map (·.1)) (values : List String) :
    assignKey key values map = map ++ [(key, values)] := by
  -- The induction is on the map, whose keys are all passed.
  induction map with
  | nil => rfl
  | cons entry rest ih =>
    obtain ⟨first, old⟩ := entry
    rw [List.map_cons, List.mem_cons, not_or] at fresh
    rw [assignKey, if_neg (Ne.symm fresh.1), ih fresh.2]
    rfl

/-- Entries of different names are all kept in a map, behind those that it had. -/
theorem foldl_assignKey {map : List (String × List String)}
    (distinct : ((map ++ entries).map (·.1)).Nodup) :
    entries.foldl (fun map entry => assignKey entry.1 entry.2 map) map = map ++ entries := by
  -- The induction is on the entries, each of which goes to the end of the map.
  induction entries generalizing map with
  | nil => exact (List.append_nil map).symm
  | cons entry rest ih =>
    -- The key of the entry is new to the map, since no key comes twice in both together.
    have fresh : entry.1 ∉ map.map (·.1) := by
      intro found
      rw [List.map_append, List.map_cons] at distinct
      exact (List.disjoint_of_nodup_append distinct) found List.mem_cons_self
    have joined : map ++ entry :: rest = map ++ [(entry.1, entry.2)] ++ rest := by simp
    rw [joined] at distinct ⊢
    rw [List.foldl_cons, assignKey_of_not_mem fresh, ih distinct]

/-- A map by exact spelling in which nothing of some header fields is lost. -/
structure KeptIn (headers : Headers) (map : List (String × List String)) : Prop where
  distinct : (map.map (·.1)).Nodup
  length : map.length = headers.size
  entries : ∀ entry, entry ∈ map ↔ entry ∈ headers.entries

/-- Where no name is spelled twice, the copy by exact spelling loses nothing. -/
theorem keptIn_toMap (distinct : (headers.names.map Text.caseKey).Nodup) :
    headers.KeptIn headers.toMap := by
  have spelled : headers.names.Nodup := distinct.of_map Text.caseKey
  -- Names that differ in more than case differ in spelling, so no entry takes another's place.
  have same : headers.toMap = headers.entries := @foldl_assignKey headers.entries [] spelled
  rw [same]
  exact ⟨spelled, rfl, fun _ => Iff.rfl⟩

/-- Adding pairs one by one is a run of operations without a replacement. -/
theorem ofList_eq_performAll (pairs : List (String × String)) :
    ofList pairs = empty.performAll (pairs.map fun pair => .append pair.1 pair.2) := by
  -- Each pair is added by one operation.
  rw [ofList, performAll, List.foldl_map]
  rfl

/--
Header fields that any operations have led to. No name is spelled in two ways; the names stand in
the order of their first occurrence and are spelled as they were there. A name has the values of its
last replacement, if there is one, and behind them all that were added since, and an operation on
one name leaves the values of all others. Spellings that differ in case alone get the same answers,
and a copy by exact spelling, such as the view of a request has it, loses nothing.
-/
theorem performAll_fields (ops : List Operation) :
    let headers := empty.performAll ops
    headers.entries.Pairwise (fun earlier later =>
      Text.sameIgnoringCase earlier.1 later.1 = false) ∧
    headers.names = Text.firstSpellings (ops.map Operation.name) ∧
    (∀ entry ∈ headers.entries, headers.get? entry.1 = some entry.2) ∧
    (∀ name, headers.contains name = true ↔
      ∃ op ∈ ops, Text.sameIgnoringCase op.name name = true) ∧
    (∀ name before spelling values after, ops = before ++ .insert spelling values :: after →
      Text.sameIgnoringCase spelling name = true →
      (∀ op ∈ after, op.replaces name = false) →
      headers.get? name = some (values ++ added name after)) ∧
    (∀ name, (∀ op ∈ ops, op.replaces name = false) → headers.contains name = true →
      headers.get? name = some (added name ops)) ∧
    (∀ op name, Text.sameIgnoringCase op.name name = false →
      (headers.perform op).get? name = headers.get? name) ∧
    (∀ name spelling, Text.sameIgnoringCase name spelling = true →
      headers.get? name = headers.get? spelling ∧
        headers.first? name = headers.first? spelling ∧
        headers.contains name = headers.contains spelling) ∧
    headers.size = (ops.map fun op => Text.caseKey op.name).toFinset.card ∧
    headers.KeptIn headers.toMap ∧
    (∀ request : Request, request.headers = headers → headers.KeptIn request.view.headers) ∧
    ∀ pairs, ofList pairs = empty.performAll (pairs.map fun pair => .append pair.1 pair.2) := by
  intro headers
  have names : headers.names = Text.firstSpellings (ops.map Operation.name) :=
    @names_performAll empty [] rfl ops
  have distinct : (headers.names.map Text.caseKey).Nodup := by
    rw [names]
    exact Text.nodup_caseKey_firstSpellings _
  have kept : headers.KeptIn headers.toMap := keptIn_toMap distinct
  refine ⟨?_, names, get?_of_mem distinct, fun name => ?_, ?_, ?_, ?_, ?_, ?_, kept, ?_,
    ofList_eq_performAll⟩
  · -- Different keys are what the test for equal names tells apart.
    have apart := List.pairwise_map.mp (List.pairwise_map.mp distinct)
    refine apart.imp fun other => ?_
    rw [← Bool.not_eq_true, Text.sameIgnoringCase_iff]
    exact other
  · -- A name is among the first spellings if any operation has given it.
    rw [contains_iff, names, Text.mem_caseKey_firstSpellings]
    simp [Text.sameIgnoringCase]
  · -- The replacement sets the values that all later operations add to.
    rintro name before spelling values after rfl same later
    have replaced : ((empty.performAll before).perform (.insert spelling values)).get? name =
        some values := by
      rw [get?_perform]
      exact if_pos (Text.sameIgnoringCase_iff.mp same)
    have split : headers =
        ((empty.performAll before).perform (.insert spelling values)).performAll after :=
      List.foldl_append
    have present : headers.contains name = true := by
      rw [contains_iff, names, Text.mem_caseKey_firstSpellings]
      simp [Operation.name, Text.sameIgnoringCase_iff.mp same]
    rw [get?_of_contains present, split, get?_performAll later, replaced]
    rfl
  · -- Without a replacement, all that was ever added is there.
    intro name unreplaced present
    rw [get?_of_contains present]
    exact congrArg some (@get?_performAll empty name ops unreplaced)
  · -- The operation looks for another key.
    intro op name other
    rw [get?_perform, if_neg]
    simpa [Text.sameIgnoringCase] using other
  · -- All three answers are read from the values.
    intro name spelling same
    have values := headers.get?_congr (Text.sameIgnoringCase_iff.mp same)
    rw [first?, first?, contains, contains, values]
    exact ⟨rfl, rfl, rfl⟩
  · -- There is one name for each entry.
    have count : headers.size = headers.names.length := (List.length_map _).symm
    rw [count, names, Text.length_firstSpellings, List.map_map]
    rfl
  · -- The view copies the fields by their exact spelling.
    intro request same
    rw [Request.view, same]
    exact kept

/-- Additions and replacements in mixed spellings, one of them by no values. -/
theorem performAll_fields_mixed :
    let ops : List Operation := [.append "Accept" "a", .append "X-Trace" "1",
      .insert "accept" ["b"], .append "ACCEPT" "c", .insert "x-trace" []]
    let headers := empty.performAll ops
    headers.names = ["Accept", "X-Trace"] ∧ headers.get? "aCCEPT" = some ["b", "c"] ∧
      headers.get? "X-TRACE" = some [] ∧ headers.size = 2 ∧ headers.KeptIn headers.toMap := by
  intro ops headers
  obtain ⟨-, names, -, -, replaced, -, -, -, size, kept, -⟩ := performAll_fields ops
  -- Behind the replacement, one more value was added in another spelling.
  have accepted : headers.get? "aCCEPT" = some ["b", "c"] :=
    replaced "aCCEPT" (ops.take 2) "accept" ["b"] (ops.drop 3) rfl (by decide) (by decide)
  have emptied : headers.get? "X-TRACE" = some [] :=
    replaced "X-TRACE" (ops.take 4) "x-trace" [] [] rfl (by decide) (by decide)
  exact ⟨names.trans (by decide), accepted, emptied, size.trans (by decide), kept⟩

end Headers

end ServiceCall
