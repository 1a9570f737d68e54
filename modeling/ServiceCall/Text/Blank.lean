/-! Blank characters and the trimming of text, by the Unicode property White_Space. -/

namespace ServiceCall.Text

/-- A character is blank when it has the Unicode property White_Space. -/
def isBlank (c : Char) : Bool :=
  let n := c.toNat
  (0x9 ≤ n && n ≤ 0xD) || n == 0x20 || n == 0x85 || n == 0xA0 || n == 0x1680
    || (0x2000 ≤ n && n ≤ 0x200A) || n == 0x2028 || n == 0x2029 || n == 0x202F
    || n == 0x205F || n == 0x3000

/-- Drops the longest run at the end whose characters all satisfy a test. -/
def dropEndWhile (test : Char → Bool) (text : List Char) : List Char :=
  (text.reverse.dropWhile test).reverse

/-- Drops the characters satisfying a test from both ends. -/
def trimBy (test : Char → Bool) (text : List Char) : List Char :=
  dropEndWhile test (text.dropWhile test)

/-- Drops blank characters from both ends. -/
def trim (text : List Char) : List Char :=
  trimBy isBlank text

end ServiceCall.Text
