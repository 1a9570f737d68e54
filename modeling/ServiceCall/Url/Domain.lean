import ServiceCall.Text.Utf8
import ServiceCall.Url.Domain.Direction
import ServiceCall.Url.Domain.Joiner
import ServiceCall.Url.Domain.Mapping
import ServiceCall.Url.Problem
import ServiceCall.Url.Punycode

/-!
Domains in their ASCII form. The characters of a domain are mapped and composed; then each label
beyond ASCII is checked and written in Punycode, and a label that is already in Punycode must stand
for one that could have been written so.
-/

namespace ServiceCall.Url.Domain

/-- The mark of a label in Punycode. -/
def codedMark : List Char :=
  ['x', 'n', '-', '-']

/-- Whether all characters of a text are ASCII. -/
def isAscii (text : List Char) : Bool :=
  text.all fun c => c.toNat < 0x80

/-- The most characters of a label beyond ASCII. -/
def longestLabel : Nat := 1000

/-- The most characters of a label in Punycode after its mark. -/
def longestCoded : Nat := 2000

/-- Whether a mapped and composed label beyond ASCII may be used. -/
def isValid (label : List Char) : Bool :=
  match label with
  | [] => false
  | first :: _ =>
    !nonspacingTable.contains first && !spacingTable.contains first && joinersFit [] label &&
      label.length ≤ longestLabel

/-- A label as it is meant and as it is written in ASCII. -/
structure Label where
  meant : List Char
  written : List Char
  deriving DecidableEq, Repr

/-- The label that a text after the mark of Punycode stands for, if it may be used. -/
def Label.ofCoded (coded : List Char) : Option Label := do
  if !isAscii coded || longestCoded < coded.length then none
  else
    let meant ← Punycode.decode coded
    if isAscii meant || !isMapped meant || compose meant != meant || !isValid meant ||
        (Text.afterStart? codedMark meant).isSome then none
    else some ⟨meant, codedMark ++ coded⟩

/-- The label of a mapped and composed text, if it may be used. -/
def Label.ofText (text : List Char) : Option Label :=
  match Text.afterStart? codedMark text with
  | some coded => Label.ofCoded coded
  | none =>
    if isAscii text then some ⟨text, text⟩
    else if isValid text then some ⟨text, codedMark ++ Punycode.encode text⟩
    else none

/-- The labels of a mapped and composed domain, if all of them may be used together. -/
def labels? (domain : List Char) : Option (List Label) := do
  let labels ← (Text.splitAll (· == '.') domain).mapM Label.ofText
  if directionsFit (labels.map (·.meant)) then some labels else none

/-- The ASCII form of a domain given as bytes. -/
def toAscii (domain : List UInt8) : Except Problem (List Char) :=
  match mapText (Utf8.decodeLenient domain) with
  | none => .error .invalidDomain
  | some mapped =>
    let composed := compose mapped
    if composed.any isForbidden then .error .invalidDomain
    else match labels? composed with
      | some labels => .ok (['.'].intercalate (labels.map (·.written)))
      | none => .error .invalidDomain

end ServiceCall.Url.Domain
