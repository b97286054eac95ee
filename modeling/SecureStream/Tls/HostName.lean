import SecureStream.Certificate
import SecureStream.Asn1.ShortName
import SecureStream.Net.Address
import SecureStream.Text.Blank
import SecureStream.Text.Decode

/-!
# Host names of a certificate

Whether a certificate speaks for a host name or an address.

* `HostName.matchesPattern`: a name against a pattern, whose first label may be an asterisk;
* `Certificate.coversHost`: some host name of the certificate matches;
* `Certificate.coversIp`: some address of the certificate is the given one.
-/

namespace SecureStream

namespace HostName

/-- The bytes of a text with the ASCII letters in lower case. -/
def lowerBytes (bs : List UInt8) : List UInt8 :=
  bs.map fun b => if 0x41 ≤ b ∧ b ≤ 0x5a then b + 0x20 else b

/-- A byte of a label that an asterisk may stand for. -/
def isLabelByte (b : UInt8) : Bool :=
  (0x61 ≤ b && b ≤ 0x7a) || (0x30 ≤ b && b ≤ 0x39) || b = 0x2d

/-- The name is one label followed by the given rest, which starts with a dot. -/
def isUnder (rest name : List UInt8) : Bool :=
  let label := name.takeWhile isLabelByte
  label ≠ [] && name.drop label.length = rest

/-- The name matches the pattern. Case does not matter. An asterisk that makes up the first label
stands for one label, if at least two more follow. -/
def matchesPattern (pattern name : List UInt8) : Bool :=
  let pattern := lowerBytes pattern
  let name := lowerBytes name
  match pattern with
  | 0x2a :: 0x2e :: rest =>
    if 0x2e ∈ rest then isUnder (0x2e :: rest) name else pattern = name
  | _ => pattern = name

end HostName

namespace Certificate

/-- The names of the alternative names' extension, if there is one that can be read. -/
def generalNames (c : Certificate) : List GeneralName := c.altNames.getD []

/-- The host names among the alternative names. -/
def hostNames (c : Certificate) : List (List UInt8) :=
  c.generalNames.filterMap fun
    | .dns octets => some octets
    | _ => none

/-- The common names of the subject. -/
def commonNames (c : Certificate) : List (List UInt8) :=
  c.subject.entries.filterMap fun a =>
    if a.oid.path = [2, 5, 4, 3] then a.text.map Text.utf8 else none

/-- Some host name of the certificate matches. The common names count only if there is no host name
among the alternative names. -/
def coversHost (c : Certificate) (name : String) : Bool :=
  let names := if c.hostNames = [] then c.commonNames else c.hostNames
  names.any fun pattern => HostName.matchesPattern pattern (Text.utf8 name.toList)

/-- Some address of the certificate is the given one. -/
def coversIp (c : Certificate) (ip : IpAddress) : Bool := c.generalNames.contains (.ip ip.toBytes)

end Certificate

end SecureStream
