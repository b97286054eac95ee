import SecureStream.Certificate
import SecureStream.Name.Render
import SecureStream.Net.Address

/-!
# Certificate information

What is shown of a certificate.

* `GeneralName.shown?`: the text of an alternative name, for those that have one;
* `CertInfo`, `CertInfo.ofCertificate`: both names and the alternative names, as texts.
-/

namespace SecureStream

/-- The text of an alternative name: a host name that is readable, or an internet address. -/
def GeneralName.shown? : GeneralName → Option (List Char)
  | dns octets => (Text.utf8? octets).map ("DNS:".toList ++ ·)
  | ip octets => (IpAddress.ofBytes? octets).map fun x => "IP:".toList ++ x.chars
  | other => none

/-- What is shown of a certificate. -/
structure CertInfo where
  subject : String
  issuer : String
  altNames : List String
  deriving DecidableEq

/-- What is shown of a certificate: alternative names keep their order, and those without a text
are left out. -/
def CertInfo.ofCertificate (c : Certificate) : CertInfo where
  subject := c.subject.text
  issuer := c.issuer.text
  altNames := (c.altNames.getD []).filterMap fun n => n.shown?.map String.ofList

end SecureStream
