import SecureStream.Asn1.Octets
import SecureStream.Net.Literal
import SecureStream.Peer.Clock
import SecureStream.Pem.Block

/-!
# Authorities

The certificates that scripted peers show, and those of the authorities that issue them.

* `Authority`: an authority by its name and validity;
* `Authority.pem`: the authority's certificate as a bundle holds it;
* `LeafSpec`, `LeafSpec.certificate`: a peer's certificate.
-/

namespace SecureStream.Peer

open Asn1

/-- The attribute of a name with the given step below the directory attribute types. -/
def directoryAttribute (step : Nat) (text : String) : Attribute :=
  ⟨⟨[2, 5, 4, step]⟩, some text.toList⟩

/-- The name of a subject of an organisation. -/
def subject (organisation commonName : String) : Name :=
  ⟨[[directoryAttribute 10 organisation], [directoryAttribute 3 commonName]]⟩

/-- An authority: its organisation and common name, and the days from which and to which its
certificate is valid. -/
structure Authority where
  organisation : String
  commonName : String
  first : Int
  last : Int

namespace Authority

/-- The authority's name. -/
def name (a : Authority) : Name := subject a.organisation a.commonName

/-- The octets of a length. -/
def lengthOctets (n : Nat) : List UInt8 :=
  if n < 128 then [.ofNat n] else [0x82, .ofNat (n / 256), .ofNat (n % 256)]

/-- An element with an identifier octet and a content. -/
def element (identifier : UInt8) (content : List UInt8) : List UInt8 :=
  identifier :: (lengthOctets content.length ++ content)

/-- The element of a directory attribute. -/
def attributeElement (a : Attribute) : List UInt8 :=
  let step := UInt8.ofNat (a.oid.path.getLast?.getD 0)
  element 0x30 (element 0x06 [0x55, 0x04, step] ++ element 0x0c (Text.utf8 (a.text.getD [])))

/-- The element of a name. -/
def nameElement (n : Name) : List UInt8 :=
  element 0x30 (n.sets.flatMap fun set => element 0x31 (set.flatMap attributeElement))

/-- The element of a time. -/
def timeElement (t : Time) : List UInt8 := element 0x18 (t.octets ++ [0x5a])

/-- The element of a signature algorithm, and that of a kind of keys. -/
def algorithmElement : List UInt8 :=
  element 0x30 (element 0x06 [0x2a, 0x86, 0x48, 0xce, 0x3d, 0x04, 0x03, 0x02])

/-- The authority's certificate, with an empty key and signature. -/
def encode (a : Authority) : List UInt8 :=
  let name := nameElement a.name
  let empty := element 0x03 [0x00]
  let validity := timeElement (Clock.time a.first) ++ timeElement (Clock.time a.last)
  let signed := element 0x30 (
    element 0x02 [0x01] ++ algorithmElement ++ name ++ element 0x30 validity ++ name ++
      element 0x30 (algorithmElement ++ empty))
  element 0x30 (signed ++ algorithmElement ++ empty)

/-- The authority's certificate as a bundle holds it. -/
def pem (a : Authority) : List UInt8 :=
  Pem.ascii "-----BEGIN CERTIFICATE-----\n" ++ Base64.encode a.encode ++
    Pem.ascii "\n-----END CERTIFICATE-----\n"

end Authority

/-- Who issued a peer's certificate. -/
inductive Issuer
  | authority (a : Authority)
  | self

/-- A peer's certificate: its organisation and common name, its alternative names, its issuer, and
the days from which and to which it is valid. -/
structure LeafSpec where
  organisation : String
  commonName : String
  altNames : List String
  issuer : Issuer
  first : Int
  last : Int

namespace LeafSpec

/-- An alternative name: an address if the text spells one, else a host name. -/
def generalName (text : String) : GeneralName :=
  match IpAddress.ofText? text with
  | some ip => .ip ip.toBytes
  | none => .dns (Text.utf8 text.toList)

/-- The peer's name. -/
def name (l : LeafSpec) : Name := subject l.organisation l.commonName

/-- The peer's certificate. -/
def certificate (l : LeafSpec) : Certificate where
  encoding := []
  issuer := match l.issuer with
    | .authority a => a.name
    | .self => l.name
  validity := ⟨Clock.time l.first, Clock.time l.last⟩
  subject := l.name
  altNames := if l.altNames = [] then none else some (l.altNames.map generalName)

end LeafSpec

end SecureStream.Peer
