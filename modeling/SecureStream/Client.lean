import SecureStream.Endpoint
import SecureStream.Session

/-!
# Clients

One stream of bytes to a peer, plain or over TLS. Which of the two is settled when the client is
made.

* `Client`, `Client.new`: a client that is not open;
* `Client.connect`, `Client.close`: make and end the connection;
* `Client.send`, `Client.recv`: over the session if there is one, else over the transport;
* `Client.drop`: forget the client without telling anyone.
-/

namespace SecureStream

/-- A client of an endpoint. -/
structure Client where
  endpoint : Endpoint
  context : Option Context
  transport : Transport
  session : Option Session

namespace Client

/-- TLS was asked for without a context. -/
def missingContext : ConnectionError := .invalidConfig "TLS enabled but no TLS context given"

/-- Make a client that is not open. One over TLS needs a context and a remote name. -/
def new (endpoint : Endpoint) (context : Option Context) : Except ConnectionError Client :=
  if endpoint.tls ∧ endpoint.remoteName = "" then
    .error (.invalidConfig "remote name must not be empty when TLS is enabled")
  else if endpoint.tls ∧ context.isNone then
    .error missingContext
  else
    .ok ⟨endpoint, context, endpoint.transport, none⟩

/-- The client has been opened and not closed since. -/
def isOpen (c : Client) : Bool :=
  if c.endpoint.tls then c.session.isSome else c.transport.isConnected

/-- The parameters of the session, while there is one. -/
def sessionInfo (c : Client) : Option SessionInfo := c.session.map Session.info

/-- What the verifier has let pass, while there is a session. -/
def certStatus (c : Client) : Option CertStatus := c.session.map Session.status

variable {σ : Type} (E : Environment σ)

/-- Close the transport after a failure. That it cannot be closed is only logged. -/
def abort (c : Client) : Act σ Client := do
  let (r, transport) ← c.transport.close E
  match r with
  | .ok () => pure ()
  | .error e =>
    say (.debug ("Closing connection to " ++ transport.endpoint ++ " after failed open: " ++
      e.message))
  return { c with transport }

/-- Open a pending session: connect, and do the handshake over a second socket. -/
def establish (c : Client) (pending : Pending) (msg : String) :
    Act σ (Except ConnectionError Unit × Client) := do
  let (r, transport) ← ({ c.transport with port := c.endpoint.connectPort }).connect E msg
  let c := { c with transport }
  match r with
  | .error e => return (.error (.transport e), c)
  | .ok () =>
    match ← c.transport.duplicate E with
    | .error e => return (.error (.transport e), ← c.abort E)
    | .ok socket =>
      match ← pending.handshake E socket with
      | .error e => return (.error e, ← c.abort E)
      | .ok session => return (.ok (), { c with session := some session })

/-- Connect, and do the handshake if the client is one over TLS. The message says in the log what
the connection is for. -/
def connect (c : Client) (msg : String) : Act σ (Except ConnectionError Unit × Client) := do
  if c.isOpen then
    return (.error (.invalidConfig "connection already open"), c)
  else if c.endpoint.tls then
    match c.context with
    | none => return (.error missingContext, c)
    | some ctx =>
      say (.info (msg ++ ", initiating HTTPS ..."))
      match ← (Pending.create E ctx c.endpoint.remoteName c.endpoint.priority).run with
      | .error e => return (.error e, c)
      | .ok pending => c.establish E pending msg
  else
    let (r, transport) ← c.transport.connect E msg
    return (r.mapError .transport, { c with transport })

/-- Send all bytes of a buffer. -/
def send (c : Client) (bytes : List UInt8) : Act σ (Except ConnectionError Unit) := do
  match c.session with
  | some session => session.send E bytes
  | none => return (← c.transport.send E bytes).mapError .transport

/-- Receive into a buffer: the number of bytes received, and the buffer afterwards. -/
def recv (c : Client) (buffer : List UInt8) :
    Act σ (Except ConnectionError Nat × List UInt8) := do
  match c.session with
  | some session => session.recv E buffer
  | none =>
    let (r, buffer) ← c.transport.recv E buffer
    return (r.mapError .transport, buffer)

/-- End the session, if there is one, and close the transport, which alone decides the result. -/
def close (c : Client) : Act σ (Except ConnectionError Unit × Client) := do
  match c.session with
  | some session => session.close E
  | none => pure ()
  say (.debug ("Closing connection to " ++ c.transport.endpoint))
  let (r, transport) ← c.transport.close E
  return (r.mapError .transport, { c with session := none, transport })

/-- Forget the client. A session that is still open is open no longer. -/
def drop (c : Client) : Act σ Unit :=
  match c.session with
  | some _ => Session.drop
  | none => pure ()

end Client

end SecureStream
