/-!
# White space

The Unicode property `White_Space`, and the two text operations that options are read through.

* `isBlank`: the 25 characters of the property;
* `trim`: a text without its leading and trailing white space;
* `lowerAscii`: a text whose ASCII letters are in lower case, all other characters kept.
-/

namespace SecureStream.Text

/-- The ranges of the property `White_Space`, both ends included. -/
def blankRanges : List (Nat × Nat) :=
  [(0x09, 0x0D), (0x20, 0x20), (0x85, 0x85), (0xA0, 0xA0), (0x1680, 0x1680), (0x2000, 0x200A),
    (0x2028, 0x2029), (0x202F, 0x202F), (0x205F, 0x205F), (0x3000, 0x3000)]

/-- The character is white space. -/
def isBlank (c : Char) : Bool :=
  blankRanges.any fun r => r.1 ≤ c.toNat && c.toNat ≤ r.2

/-- The text without its leading white space. -/
def trimLeft (cs : List Char) : List Char := cs.dropWhile isBlank

/-- The text without its trailing white space. -/
def trimRight (cs : List Char) : List Char := (trimLeft cs.reverse).reverse

/-- The text without its leading and trailing white space. -/
def trim (cs : List Char) : List Char := trimRight (trimLeft cs)

/-- An upper-case ASCII letter in lower case; any other character is kept. -/
def lowerChar (c : Char) : Char :=
  if 'A' ≤ c ∧ c ≤ 'Z' then Char.ofNat (c.toNat + 32) else c

/-- The text with its ASCII letters in lower case. -/
def lowerAscii (cs : List Char) : List Char := cs.map lowerChar

end SecureStream.Text
