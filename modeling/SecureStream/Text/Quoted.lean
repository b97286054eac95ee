import SecureStream.Text.Unprintable

/-!
# Quoted text

A text as it stands in the description of a value: between quotes, with a backslash before what
would not be readable.

* `quoteChar`, `quote`: a character and a text;
* `quoteList`, `quoteOption`: a list and an optional value of descriptions.
-/

namespace SecureStream.Text

/-- The characters that stand for one character of a quoted text. -/
def quoteChar (c : Char) : List Char :=
  match c with
  | '\x00' => ['\\', '0']
  | '\t' => ['\\', 't']
  | '\r' => ['\\', 'r']
  | '\n' => ['\\', 'n']
  | '"' => ['\\', '"']
  | '\\' => ['\\', '\\']
  | c =>
    if isUnprintable c then ['\\', 'u', '\x7b'] ++ Nat.toDigits 16 c.toNat ++ ['\x7d'] else [c]

/-- A text between quotes. -/
def quote (s : String) : String :=
  String.ofList (['"'] ++ s.toList.flatMap quoteChar ++ ['"'])

/-- Descriptions between brackets. -/
def quoteList (items : List String) : String := "[" ++ ", ".intercalate items ++ "]"

/-- The description of a value that may be missing. -/
def quoteOption : Option String → String
  | some s => "Some(" ++ s ++ ")"
  | none => "None"

/-- The description of a record: its name and its fields. -/
def describe (name : String) (fields : List (String × String)) : String :=
  let parts := fields.map fun (key, value) => key ++ ": " ++ value
  name ++ " \x7b " ++ ", ".intercalate parts ++ " \x7d"

end SecureStream.Text
