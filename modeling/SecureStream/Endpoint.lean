import SecureStream.Transport

/-!
# Endpoints

What a caller says about one connection.

* `Endpoint`: whom to talk to, where, how, and how long to wait;
* `Endpoint.Setter`, `Endpoint.set`: the changes that a caller makes to the defaults;
* `Endpoint.connectHost`, `Endpoint.connectPort`: where the connection goes.
-/

namespace SecureStream

/-- The settings of a connection. The remote name is what the peer must be; host and port say where
it is found, if that is elsewhere. -/
structure Endpoint where
  remoteName : String
  host : Option String
  port : Option UInt16
  tls : Bool
  /-- The time limit in milliseconds. -/
  limit : Option Nat
  priority : Option String
  deriving DecidableEq

namespace Endpoint

/-- A plain connection to a host. -/
def new (remoteName : String) : Endpoint := ⟨remoteName, none, none, false, some defaultLimit, none⟩

/-- One change of a setting. -/
inductive Setter
  | tls (enabled : Bool)
  | host (host : String)
  | port (port : UInt16)
  | limit (milliseconds : Option Nat)
  | priority (text : String)
  deriving DecidableEq

/-- Make one change. -/
def set (e : Endpoint) : Setter → Endpoint
  | .tls enabled => { e with tls := enabled }
  | .host host => { e with host := some host }
  | .port port => { e with port := some port }
  | .limit limit => { e with limit }
  | .priority text => { e with priority := some text }

/-- The host that the connection goes to. -/
def connectHost (e : Endpoint) : String := e.host.getD e.remoteName

/-- The port that the connection goes to. -/
def connectPort (e : Endpoint) : UInt16 :=
  e.port.getD (if e.tls then httpsPort else httpPort)

/-- The transport to the endpoint, not connected. -/
def transport (e : Endpoint) : Transport := ⟨e.connectHost, e.connectPort, e.limit, none⟩

end Endpoint

end SecureStream
