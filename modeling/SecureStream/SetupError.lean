import SecureStream.Tls.Failure

/-!
# Errors of setting up TLS

Why a configuration, a trust store or a TLS context could not be made.

* `SetupError`: the causes;
* `SetupError.message`, `SetupError.sources`: their texts.
-/

namespace SecureStream

/-- Why TLS could not be set up. -/
inductive SetupError
  /-- The TLS library refused a step. -/
  | library (errors : LibraryErrors)
  /-- The text names no supported protocol version. -/
  | invalidVersion (text : String)
  /-- The configuration contradicts itself. -/
  | invalidConfig (reason : String)
  /-- The TLS library is older than the oldest supported release. -/
  | libraryTooOld (found : String)
  /-- The trust anchors could not be loaded. -/
  | trustStore (path : String) (reason : String)
  /-- The TLS library does not accept the priority string. -/
  | invalidPriority (priority : String) (errors : LibraryErrors)
  deriving DecidableEq

namespace SetupError

/-- The oldest supported release of the TLS library. -/
def requiredRelease : String := "OpenSSL 1.1.1"

/-- The text of an error. -/
def message : SetupError → String
  | library errors => "OpenSSL error: " ++ errors.message
  | invalidVersion text => "Unsupported minimum TLS version: " ++ text
  | invalidConfig reason => "Invalid configuration: " ++ reason
  | libraryTooOld found =>
    "OpenSSL " ++ found ++ " is too old, " ++ requiredRelease ++ " or later is required"
  | trustStore path reason =>
    "Failed loading trusted CA certificates from " ++ path ++ ": " ++ reason
  | invalidPriority priority errors =>
    "Syntax error in TLS priority string '" ++ priority ++ "': " ++ errors.message

/-- The texts of the causes below an error, outermost first. -/
def sources : SetupError → List String
  | library errors => [errors.message]
  | invalidPriority _ errors => [errors.message]
  | invalidVersion _ | invalidConfig _ | libraryTooOld _ | trustStore _ _ => []

end SetupError

end SecureStream
