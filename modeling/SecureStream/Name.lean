import SecureStream.Asn1.Octets
import SecureStream.Text.Decode

/-!
# Distinguished names

The name of a certificate's subject or issuer: a sequence of sets of attributes.

* `Attribute`: a type with a value, which may have no text;
* `Name`: the sets of attributes, in encoded order, with `Name.entries` as their flat list;
* `Name.decode?`: the name in front of some bytes.
-/

namespace SecureStream

open Asn1

/-- One attribute of a name. A value of a type that is not textual has no text. -/
structure Attribute where
  oid : Oid
  text : Option (List Char)
  deriving DecidableEq

/-- A distinguished name: its sets of attributes, the most general first. -/
structure Name where
  sets : List (List Attribute)
  deriving DecidableEq

namespace Name

/-- The attributes of all sets, in encoded order. -/
def entries (name : Name) : List Attribute := name.sets.flatten

end Name

namespace Attribute

/-- The types that a value may have. Those from 7 on that are not textual are types without a
meaning of their own. -/
def valueTypes : List Nat :=
  [3, 7, 8, 9, 11, 12, 13, 14, 15, 16, 18, 19, 20, 22, 28, 29, 30]

/-- The text of a value, if its type is textual; a text that cannot be read is malformed. -/
def textOf? (type : Nat) (bs : List UInt8) : Option (Option (List Char)) :=
  match type with
  | 12 => (Text.utf8? bs).map some
  | 18 | 19 | 20 | 22 => some (some (Text.latin1 bs))
  | 28 => (Text.ucs4? bs).map some
  | 30 => (Text.ucs2? bs).map some
  | _ => some none

/-- The value of an attribute. -/
def value : Reader (Option (List Char)) := fun bs =>
  (oneOf valueTypes bs).refine fun (type, bs) => textOf? type bs

/-- An attribute: its type, then its value. -/
def read : Reader Attribute :=
  sequence .sequence fun s => do
    let (oid, s) ← s.required objectId
    let (text, s) ← s.required value
    return (⟨oid, text⟩, s)

end Attribute

namespace Name

/-- A name: a sequence of sets of attributes. -/
def read : Reader Name := fun bs =>
  (manyOf .sequence (manyOf .set Attribute.read) bs).refine fun sets => some ⟨sets⟩

/-- The name in front of some bytes. -/
def decode? (bs : List UInt8) : Option Name := (read bs).get?.map (·.1)

end Name

end SecureStream
