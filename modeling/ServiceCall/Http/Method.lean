/-! Request methods: any nonempty token is one, and the spelling matters. -/

namespace ServiceCall

/-- Whether a character may stand in a token. -/
def isTokenChar (c : Char) : Bool :=
  c.isAlphanum ||
    ['!', '#', '$', '%', '&', '\'', '*', '+', '-', '.', '^', '_', '\x60', '|', '~'].contains c

/-- Whether a text is a token. -/
def isToken (text : String) : Bool :=
  !text.toList.isEmpty && text.toList.all isTokenChar

/-- The method of a request. -/
structure Method where
  name : String
  deriving DecidableEq, Repr

namespace Method

/-- The method that reads without changing anything. -/
def get : Method := ⟨"GET"⟩

/-- Reads a method. -/
def ofString? (name : String) : Option Method :=
  if isToken name then some ⟨name⟩ else none

end Method

end ServiceCall
