import SecureStream.Asn1.ShortName
import SecureStream.Name

/-!
# Written names

The text of a distinguished name: its attributes, the most specific first, as `key=value` with
commas between them.

* `escape`: a value with a backslash before each character that has a meaning here;
* `Attribute.key`, `Attribute.shown`: the short name of the type, and the value that is shown;
* `Attribute.chars`: the text of an attribute;
* `Name.chars`, `Name.textBy`: the text of a name, if types have some short names;
* `Name.text`: the text of a name with the short names of the library.
-/

namespace SecureStream

open Asn1

namespace Name

/-- The characters that are escaped wherever they stand. -/
def special : List Char := [',', '+', '"', '\\', '<', '>', ';', '=']

/-- The characters after the first one, escaped. A space is escaped only where it is the last. -/
def escapeRest : List Char → List Char
  | [] => []
  | [c] => if c ∈ special ∨ c = ' ' then ['\\', c] else [c]
  | c :: cs => if c ∈ special then '\\' :: c :: escapeRest cs else c :: escapeRest cs

/-- A value with its special characters escaped. In front, a space and a hash are special too. -/
def escape : List Char → List Char
  | [] => []
  | c :: cs =>
    if c = ' ' ∨ c = '#' then '\\' :: c :: escapeRest cs else escapeRest (c :: cs)

/-- What stands for a missing value, and for a name without attributes. -/
def undefined : List Char := "<undef>".toList

end Name

namespace Attribute

/-- The value that is shown: the text up to its first NUL, if there is a text. -/
def shown (a : Attribute) : Option (List Char) := a.text.map (·.takeWhile (· ≠ '\x00'))

/-- The text of a value that is shown. -/
def valueChars : Option (List Char) → List Char
  | some value => Name.escape value
  | none => Name.undefined

variable (names : Oid → Option String)

/-- The key of an attribute: the short name of its type, or a question mark if it has none. -/
def key (a : Attribute) : List Char := ((names a.oid).getD "?").toList

/-- The text of an attribute. -/
def chars (a : Attribute) : List Char := a.key names ++ '=' :: valueChars a.shown

end Attribute

namespace Name

section

variable (names : Oid → Option String)

/-- The text of a name, character by character. -/
def chars (name : Name) : List Char :=
  match name.entries with
  | [] => undefined
  | entries => [','].intercalate (entries.reverse.map (·.chars names))

/-- The text of a name, if types have some short names. -/
def textBy (name : Name) : String := String.ofList (name.chars names)

end

/-- The text of a name. -/
def text (name : Name) : String := name.textBy Oid.known

end Name

end SecureStream
