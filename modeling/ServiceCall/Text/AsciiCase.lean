/-! Comparison of names that ignores the case of ASCII letters and of no others. -/

namespace ServiceCall.Text

/-- The key two names share exactly when they are equal up to ASCII case. -/
def caseKey (name : String) : List Char :=
  name.toList.map Char.toLower

/-- Equality up to ASCII case. -/
def sameIgnoringCase (left right : String) : Bool :=
  caseKey left == caseKey right

/-- Names equal up to ASCII case are those with the same key. -/
theorem sameIgnoringCase_iff {left right : String} :
    sameIgnoringCase left right = true ↔ caseKey left = caseKey right := by
  -- Both sides compare the keys, once as a test and once as a proposition.
  simp [sameIgnoringCase]

end ServiceCall.Text
