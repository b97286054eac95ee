import SecureStream.Certificate
import SecureStream.Net.Address
import SecureStream.Tls.Failure
import SecureStream.Verify.Verifier
import SecureStream.Version

/-!
# What is asked of the TLS library

The settings that the library is given, as the values that its setters have stored, and what it
reports about a handshake.

* `Tls.Context`: the settings that sessions share;
* `Tls.Request`: the settings of one session;
* `Tls.SetUp`, `Tls.Setting`: the steps that make them, those that the library may refuse and those
  that it always takes;
* `Tls.Negotiated`, `Tls.Attempt`: the outcome of a handshake.
-/

namespace SecureStream.Tls

/-- Whether the peer has to prove who it is. -/
inductive VerifyMode
  | none
  | peer
  deriving DecidableEq

/-- Settings that sessions share. -/
structure Context where
  priority : String
  minVersion : Option Version
  anchors : List Certificate
  verifyMode : VerifyMode
  /-- Sessions may be resumed. -/
  sessionCache : Bool
  deriving DecidableEq

/-- Settings of one session: what it shares with others, the name it asks the peer for, and the
identity that the peer's certificate must have. -/
structure Request where
  context : Context
  verifyMode : VerifyMode
  askedName : Option String
  expectedHost : Option String
  expectedIp : Option IpAddress
  deriving DecidableEq

/-- A step of setting up that the library may refuse. -/
inductive SetUp
  | newContext
  | ciphers (priority : String)
  | minVersion (version : Version)
  | anchors (certificates : List Certificate)
  | newSession
  | askName (name : String)
  | expectHost (name : String)
  | expectIp (ip : IpAddress)
  deriving DecidableEq

/-- A setting of a context that the library always takes. -/
inductive Setting
  | verifyMode (mode : VerifyMode)
  | sessionCache (resumed : Bool)
  deriving DecidableEq

/-- The parameters that a handshake ends with. -/
structure Negotiated where
  version : String
  cipher : Option String
  peer : Option Certificate
  deriving DecidableEq

/-- One attempt at a handshake: the calls that the library made of the verifier, and how the attempt
ended. -/
structure Attempt where
  calls : List Callback
  outcome : Except Failure Negotiated

end SecureStream.Tls
