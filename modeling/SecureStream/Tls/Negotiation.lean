import SecureStream.Cipher.Priority
import SecureStream.Version

/-!
# Negotiation

What two sides of a handshake agree on.

* `Tls.agreeVersion?`: the greatest version that both sides allow;
* `Tls.agreeSuite?`: the first suite of the client's list that suits the peer's key.
-/

namespace SecureStream.Tls

/-- The greatest version that both sides allow. A missing bound is none. -/
def agreeVersion? (clientMin peerMin peerMax : Option Version) : Option Version :=
  [Version.tls13, Version.tls12].find? fun v =>
    clientMin.all (· ≤ v) && peerMin.all (· ≤ v) && peerMax.all (v ≤ ·)

/-- The first suite of a priority string that a peer accepts. -/
def agreeSuite? (priority : String) (accepts : Cipher.Suite → Bool) : Option String :=
  (Cipher.Priority.read? priority).bind fun p => (p.usable.find? accepts).map (·.name)

end SecureStream.Tls
