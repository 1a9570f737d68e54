import ServiceCall.Url.Domain.MappingTable

/-! The characters of domains: upper case is lowered, variants are replaced, some are refused. -/

namespace ServiceCall.Url.Domain

/-- What stands for a character in a domain, if the character is not refused. -/
def mapChar (c : Char) : Option (List Char) :=
  if c.toNat < 0x80 then some [c.toLower]
  else if refusedTable.contains c then none
  else if ignoredTable.contains c then some []
  else match replacedTable.get? c with
    | some codes => some (codes.map Char.ofNat)
    | none => some [c]

/-- What stands for a text in a domain, if none of its characters is refused. -/
def mapText (text : List Char) : Option (List Char) :=
  (text.mapM mapChar).map List.flatten

/-- Whether a text is mapped to itself, character by character. -/
def isMapped (text : List Char) : Bool :=
  text.all fun c => mapChar c == some [c]

/-- Whether an ASCII character is refused in a domain. -/
def isForbidden (c : Char) : Bool :=
  c.toNat ≤ 0x20 || c.toNat == 0x7F ||
    ['%', '#', '/', ':', '<', '>', '?', '@', '[', '\\', ']', '^', '|'].contains c

end ServiceCall.Url.Domain
