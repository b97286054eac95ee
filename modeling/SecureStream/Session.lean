import SecureStream.Pending
import SecureStream.SessionInfo
import SecureStream.Transport

/-!
# TLS sessions

* `Pending.handshake`: the handshake over a connection, which makes a pending session an open one;
* `Session`: an open session;
* `Session.send`, `Session.recv`: all bytes of a buffer, and at most two reads into a buffer;
* `Session.close`, `Session.drop`: the end of a session, announced to the peer or not.
-/

namespace SecureStream

/-- An open session. -/
structure Session where
  socket : Socket
  verifier : Verifier
  info : SessionInfo

variable {σ : Type} (E : Environment σ)

namespace Pending

/-- One attempt at the handshake. The verifier answers the library's calls and keeps what it has
found over all attempts. -/
def attemptHandshake (socket : Socket) (request : Tls.Request) (s : World σ × Verifier) :
    Except Tls.Failure Tls.Negotiated × (World σ × Verifier) :=
  let (a, w) := perform E (.handshake socket request s.2) s.1
  let (lines, v) := s.2.observe a.calls
  (a.outcome, (w.record lines, v))

/-- The outcome of an attempt says that it was interrupted. -/
def isInterrupted : Except Tls.Failure Tls.Negotiated → Bool
  | .error e => e.isTransient
  | .ok _ => false

theorem bounded_attemptHandshake (socket : Socket) (request : Tls.Request) :
    Retry.Bounded (attemptHandshake E socket request) isInterrupted
      fun s => E.patience s.1.state :=
  fun s h => E.patience_lt (.handshake socket request s.2) s.1.state h

/-- The peer has not shown a certificate. -/
def noCertificate : ConnectionError := .noCertificate "no peer certificate presented"

/-- The handshake over a connection. -/
def handshake (p : Pending) (socket : Socket) : Act σ (Except ConnectionError Session) := fun w =>
  let name := p.verifier.serverName
  let (outcome, (w, v)) :=
    Retry.run (bounded_attemptHandshake E socket p.request) (w, p.verifier)
  match outcome with
  | .error e =>
    (.error (.handshake name e.message v.status),
      w.record [.error ("SSL handshake with " ++ name ++ " failed: " ++ e.message)])
  | .ok negotiated =>
    let info := SessionInfo.ofNegotiated p.request negotiated
    let certificate := match info.peer with
      | some cert => [
        .info ("SSL server cert subject: " ++ cert.subject),
        .info ("SSL server cert issuer: " ++ cert.issuer)]
      | none => [.warn noCertificate.message]
    (.ok ⟨socket, v, info⟩,
      { w with openSessions := w.openSessions + 1 }.record
        (.info ("SSL connection using: " ++ info.text) :: certificate))

end Pending

namespace Session

/-- The server name that the session is bound to. -/
def serverName (s : Session) : String := s.verifier.serverName

/-- What the verifier has found and let pass. -/
def status (s : Session) : CertStatus := s.verifier.status

/-- The peer's certificate. -/
def peerCertificate (s : Session) : Except ConnectionError CertInfo :=
  match s.info.peer with
  | some cert => .ok cert
  | none => .error Pending.noCertificate

/-- Write all of some bytes, in as many records as it takes. -/
def writeAll (socket : Socket) (bytes : List UInt8) : Act σ (Except Tls.Failure Unit) := do
  if bytes = [] then
    return .ok ()
  else
    match ← persist E (.tlsWrite socket bytes) with
    | .error e => return .error e
    | .ok last => writeAll socket (bytes.drop (last.val + 1))
termination_by bytes.length
decreasing_by
  have := last.isLt
  simp only [List.length_drop]
  omega

/-- Send all bytes of a buffer. -/
def send (s : Session) (bytes : List UInt8) : Act σ (Except ConnectionError Unit) := do
  match ← writeAll E s.socket bytes with
  | .error e => return .error (.send e)
  | .ok () =>
    say (.debug ("Successfully sent " ++ toString bytes.length ++ " bytes using HTTPS"))
    return .ok ()

/-- One read. The end of the stream reads as no bytes. -/
def readRecord (socket : Socket) (room : Nat) : Act σ (Except Tls.Failure (List UInt8)) := do
  match ← persist E (.tlsRead socket room) with
  | .ok bytes => return .ok bytes.val
  | .error e => if e.isEndOfStream then return .ok [] else return .error e

/-- Read at most twice: the second time only if there is still room. The bytes that were read are
returned also if the second read fails. -/
def readTwice (socket : Socket) (room : Nat) : Act σ (Except Tls.Failure Unit × List UInt8) := do
  match ← readRecord E socket room with
  | .error e => return (.error e, [])
  | .ok first =>
    if first.length < room then
      match ← readRecord E socket (room - first.length) with
      | .error e => return (.error e, first)
      | .ok second => return (.ok (), first ++ second)
    else
      return (.ok (), first)

/-- Receive into a buffer with at most two reads: the number of bytes received, and the buffer
afterwards. -/
def recv (s : Session) (buffer : List UInt8) :
    Act σ (Except ConnectionError Nat × List UInt8) := do
  if buffer = [] then
    return (.ok 0, buffer)
  else
    let (r, bytes) ← readTwice E s.socket buffer.length
    match r with
    | .error e => return (.error (.recv e), Transport.overwrite buffer bytes)
    | .ok () =>
      say (.debug ("Successfully received " ++ toString bytes.length ++ " bytes using HTTPS"))
      return (.ok bytes.length, Transport.overwrite buffer bytes)

/-- The session is no longer open. -/
def drop : Act σ Unit := modify fun w => { w with openSessions := w.openSessions - 1 }

/-- Tell the peer that the session ends, and end it whatever comes of that. -/
def close (s : Session) : Act σ Unit := do
  match ← perform E (.tlsShutdown s.socket) with
  | .ok () => say (.debug ("Sent TLS close_notify to " ++ s.serverName))
  | .error e => say (.debug ("TLS shutdown with " ++ s.serverName ++ " failed: " ++ e.message))
  drop

/-- The description of a session. -/
def describe (s : Session) : String :=
  Text.describe "TlsSession" [
    ("server_name", Text.quote s.serverName),
    ("info", s.info.describe),
    ("cert_status", "CertStatus(" ++ toString s.status.bits ++ ")")]

end Session

end SecureStream
