import SecureStream.SetupError
import SecureStream.Text.Blank

/-!
# Protocol versions

* `Version`: the two versions that a session may be limited to, in their order;
* `Version.text`, `Version.wire`: the written form and the number on the wire;
* `Version.ofText`: reading a version, leniently about case, outer white space and the prefix.
-/

namespace SecureStream

/-- A protocol version. -/
inductive Version
  | tls12
  | tls13
  deriving DecidableEq

namespace Version

/-- The written form. -/
def text : Version → String
  | tls12 => "TLSv1.2"
  | tls13 => "TLSv1.3"

/-- The name of the version in a printed configuration. -/
def name : Version → String
  | tls12 => "Tls12"
  | tls13 => "Tls13"

/-- The number that stands for the version on the wire. -/
def wire : Version → Nat
  | tls12 => 771
  | tls13 => 772

/-- A later version is greater. -/
instance : LE Version := ⟨fun v w => v.wire ≤ w.wire⟩

instance (v w : Version) : Decidable (v ≤ w) := inferInstanceAs (Decidable (v.wire ≤ w.wire))

/-- The greater of two versions. -/
instance : Max Version := ⟨fun v w => if v ≤ w then w else v⟩

/-- The lesser of two versions. -/
instance : Min Version := ⟨fun v w => if v ≤ w then v else w⟩

/-- The text without the leading characters `tag`, if it starts with them. -/
def strip? (tag cs : List Char) : Option (List Char) :=
  if tag.isPrefixOf cs then some (cs.drop tag.length) else none

/-- The number in a lower-case text: what follows one `tlsv`, or else one `tls`. -/
def number (cs : List Char) : List Char :=
  ((strip? ['t', 'l', 's', 'v'] cs).or (strip? ['t', 'l', 's'] cs)).getD cs

/-- Read a version. An error carries the text unchanged. -/
def ofText (text : String) : Except SetupError Version :=
  match number (Text.lowerAscii (Text.trim text.toList)) with
  | ['1', '.', '2'] => .ok tls12
  | ['1', '.', '3'] => .ok tls13
  | _ => .error (.invalidVersion text)

end Version

end SecureStream
