import SecureStream.Certificate.Info
import SecureStream.Text.Quoted
import SecureStream.Tls.Request

/-!
# Session information

The parameters of an established session.

* `SessionInfo`, `SessionInfo.ofNegotiated`: version, cipher, asked name and the peer's certificate;
* `SessionInfo.text`: the short form that is logged;
* `SessionInfo.describe`, `CertInfo.describe`: the long forms.
-/

namespace SecureStream

/-- The description of a certificate. -/
def CertInfo.describe (c : CertInfo) : String :=
  Text.describe "CertInfo" [
    ("subject", Text.quote c.subject),
    ("issuer", Text.quote c.issuer),
    ("subject_alt_names", Text.quoteList (c.altNames.map Text.quote))]

/-- The parameters of a session. -/
structure SessionInfo where
  version : String
  cipher : String
  askedName : Option String
  peer : Option CertInfo
  deriving DecidableEq

namespace SessionInfo

/-- What stands for a missing cipher. -/
def noCipher : String := "<undef>"

/-- The parameters that a handshake has ended with. -/
def ofNegotiated (request : Tls.Request) (n : Tls.Negotiated) : SessionInfo where
  version := n.version
  cipher := n.cipher.getD noCipher
  askedName := request.askedName
  peer := n.peer.map CertInfo.ofCertificate

/-- The short form: version and cipher. -/
def text (i : SessionInfo) : String := "(" ++ i.version ++ ")-(" ++ i.cipher ++ ")"

/-- The description of the parameters. -/
def describe (i : SessionInfo) : String :=
  Text.describe "SessionInfo" [
    ("version", Text.quote i.version),
    ("cipher", Text.quote i.cipher),
    ("servername", Text.quoteOption (i.askedName.map Text.quote)),
    ("peer", Text.quoteOption (i.peer.map CertInfo.describe))]

end SessionInfo

end SecureStream
