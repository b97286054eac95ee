import SecureStream.SetupError
import SecureStream.TransportError
import SecureStream.Verify.Status

/-!
# Errors of a connection

Each error names the phase that failed, and each phase has a stable code.

* `ConnectionError`, `ConnectionError.ofSetup`: the errors, and how a set-up error becomes one;
* `ErrorCode`, `ErrorCode.all`, `ErrorCode.text`: the codes;
* `ConnectionError.code`, `ConnectionError.message`, `ConnectionError.sources`.
-/

namespace SecureStream

/-- Why an operation on a connection failed. -/
inductive ConnectionError
  | transport (error : TransportError)
  | setup (error : SetupError)
  | invalidConfig (reason : String)
  /-- The server name cannot be asked for. -/
  | serverName (name : String) (reason : String)
  /-- The priority string of this session is not accepted. -/
  | invalidPriority (priority : String) (errors : LibraryErrors)
  /-- The handshake failed, after the verifier had found what `status` says. -/
  | handshake (name : String) (reason : String) (status : CertStatus)
  | noCertificate (reason : String)
  | send (failure : Tls.Failure)
  | recv (failure : Tls.Failure)
  deriving DecidableEq

/-- The stable codes of connection errors. -/
inductive ErrorCode
  | httpsSniError
  | httpsInvalidRequest
  | httpsFailedConnect
  | httpsFailedGettingCert
  | httpsSendError
  | httpsRecvError
  | tlsInitFailed
  | invalidConfig
  | ipInvalidRemoteAddr
  | ipConnectFailed
  | ipSocketError
  | ipSendError
  | ipRecvError
  | ipCloseError
  | ipObjectNotInitialized
  deriving DecidableEq

namespace ErrorCode

/-- Every code, in the order of their declaration. -/
def all : List ErrorCode :=
  [httpsSniError, httpsInvalidRequest, httpsFailedConnect, httpsFailedGettingCert, httpsSendError,
    httpsRecvError, tlsInitFailed, invalidConfig, ipInvalidRemoteAddr, ipConnectFailed,
    ipSocketError, ipSendError, ipRecvError, ipCloseError, ipObjectNotInitialized]

/-- The written form of a code. -/
def text : ErrorCode → String
  | httpsSniError => "HTTPS_SNI_ERROR"
  | httpsInvalidRequest => "HTTPS_INVALID_REQUEST"
  | httpsFailedConnect => "HTTPS_FAILED_CONNECT"
  | httpsFailedGettingCert => "HTTPS_FAILED_GETTING_CERT"
  | httpsSendError => "HTTPS_SEND_ERROR"
  | httpsRecvError => "HTTPS_RECV_ERROR"
  | tlsInitFailed => "TLS_INIT_FAILED"
  | invalidConfig => "INVALID_CONFIG"
  | ipInvalidRemoteAddr => "IP_INVALID_REMOTE_ADDR"
  | ipConnectFailed => "IP_CONNECT_FAILED"
  | ipSocketError => "IP_SOCKET_ERROR"
  | ipSendError => "IP_SEND_ERROR"
  | ipRecvError => "IP_RECV_ERROR"
  | ipCloseError => "IP_CLOSE_ERROR"
  | ipObjectNotInitialized => "IP_OBJECT_NOT_INITIALIZED"

end ErrorCode

/-- The code of a transport error. -/
def TransportError.code : TransportError → ErrorCode
  | invalidRemoteAddr _ _ _ => .ipInvalidRemoteAddr
  | connectFailed _ _ _ => .ipConnectFailed
  | socket _ => .ipSocketError
  | send _ => .ipSendError
  | recv _ => .ipRecvError
  | close _ => .ipCloseError
  | notConnected => .ipObjectNotInitialized

namespace ConnectionError

/-- A set-up error of one session. A refused priority string is the caller's mistake and has an
error of its own. -/
def ofSetup : SetupError → ConnectionError
  | .invalidPriority priority errors => invalidPriority priority errors
  | error => setup error

/-- The code of an error. -/
def code : ConnectionError → ErrorCode
  | transport error => error.code
  | setup _ => .tlsInitFailed
  | invalidConfig _ => .invalidConfig
  | serverName _ _ => .httpsSniError
  | invalidPriority _ _ => .httpsInvalidRequest
  | handshake _ _ _ => .httpsFailedConnect
  | noCertificate _ => .httpsFailedGettingCert
  | send _ => .httpsSendError
  | recv _ => .httpsRecvError

/-- The text of an error. -/
def message : ConnectionError → String
  | transport error => "TCP error: " ++ error.message
  | setup error => "TLS error: " ++ error.message
  | invalidConfig reason => "Invalid configuration: " ++ reason
  | serverName name reason => "Failed setting SNI server name '" ++ name ++ "': " ++ reason
  | invalidPriority priority errors =>
    "Invalid TLS priority string '" ++ priority ++ "': " ++ errors.message
  | handshake name reason _ => "SSL handshake with " ++ name ++ " failed: " ++ reason
  | noCertificate reason => "Failed getting server certificate: " ++ reason
  | send failure => "HTTPS send failed: " ++ failure.message
  | recv failure => "HTTPS receive failed: " ++ failure.message

/-- The texts of the causes below an error, outermost first. -/
def sources : ConnectionError → List String
  | transport error => error.message :: error.sources
  | setup error => error.message :: error.sources
  | invalidPriority _ errors => [errors.message]
  | send failure | recv failure => failure.message :: failure.sources
  | invalidConfig _ | serverName _ _ | handshake _ _ _ | noCertificate _ => []

end ConnectionError

end SecureStream
