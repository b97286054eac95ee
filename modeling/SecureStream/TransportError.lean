import SecureStream.SystemError

/-!
# Errors of the plain transport

* `TransportError`: the phase that failed, with the system's error;
* `TransportError.message`, `TransportError.sources`: their texts.
-/

namespace SecureStream

/-- Why an operation on a plain connection failed. -/
inductive TransportError
  /-- The host name could not be resolved. -/
  | invalidRemoteAddr (host : String) (port : UInt16) (cause : SystemError)
  /-- No address answered; the cause is that of the last one. -/
  | connectFailed (host : String) (port : UInt16) (cause : SystemError)
  | socket (cause : SystemError)
  | send (cause : SystemError)
  | recv (cause : SystemError)
  | close (cause : SystemError)
  /-- There is no connection. -/
  | notConnected
  deriving DecidableEq

namespace TransportError

/-- The text of an error. -/
def message : TransportError → String
  | invalidRemoteAddr host port cause =>
    "Invalid remote address " ++ host ++ ":" ++ toString port ++ ": " ++ cause.message
  | connectFailed host port cause =>
    "Failed connecting to " ++ host ++ ":" ++ toString port ++ ": " ++ cause.message
  | socket cause => "Socket error: " ++ cause.message
  | send cause => "Send error: " ++ cause.message
  | recv cause => "Receive error: " ++ cause.message
  | close cause => "Close error: " ++ cause.message
  | notConnected => "Connection not initialized"

/-- The texts of the causes below an error. -/
def sources : TransportError → List String
  | invalidRemoteAddr _ _ cause | connectFailed _ _ cause | socket cause | send cause
  | recv cause | close cause => [cause.message]
  | notConnected => []

end TransportError

end SecureStream
