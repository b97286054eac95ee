import SecureStream.Verify.Status

/-!
# Verification policy

Which findings end a handshake.

* `Policy.lenient`: an untrusted chain or a foreign host name, the default;
* `Policy.strict`: any finding at all;
* `Policy.fatal`: those findings as a status.
-/

namespace SecureStream

/-- How strictly peer certificates are checked. -/
inductive Policy
  | lenient
  | strict
  deriving DecidableEq

namespace Policy

instance : Inhabited Policy := ⟨lenient⟩

/-- The flags that end a handshake under the policy. -/
def fatal : Policy → CertStatus
  | lenient => .ofList [.invalid, .hostnameMismatch]
  | strict => .ofList Flag.all

/-- The policy's name in a printed configuration. -/
def text : Policy → String
  | lenient => "Lenient"
  | strict => "Strict"

end Policy

end SecureStream
