import SecureStream.Environment
import SecureStream.TransportError

/-!
# The plain transport

A blocking connection to a host and port, for plain use and as the carrier of TLS sessions.

* `Transport`: endpoint, time limit, and the socket while there is a connection;
* `Transport.connect`: resolve the host and connect to the first address that answers;
* `Transport.send`, `Transport.recv`: all bytes of a buffer, and bytes until a buffer is full or the
  peer is done;
* `Transport.close`: shut down and forget the connection.
-/

namespace SecureStream

/-- The port of plain connections. -/
def httpPort : UInt16 := 80

/-- The port of TLS connections. -/
def httpsPort : UInt16 := 443

/-- The time limit, in milliseconds, where none is set. -/
def defaultLimit : Nat := 10000

/-- A connection, or the place of one. -/
structure Transport where
  host : String
  port : UInt16
  /-- The time limit for connecting, sending and receiving. -/
  limit : Option Nat
  stream : Option Socket
  deriving DecidableEq

namespace Transport

/-- A transport that is not connected. -/
def new (host : String) (port : UInt16) : Transport := ⟨host, port, some defaultLimit, none⟩

/-- There is a connection. -/
def isConnected (t : Transport) : Bool := t.stream.isSome

/-- The endpoint as it is logged. -/
def endpoint (t : Transport) : String := t.host ++ ":" ++ toString t.port

variable {σ : Type} (E : Environment σ)

/-- How long an idle connection is left alone before it is probed, in seconds. -/
def keepAliveSeconds : Nat := 60

/-- Connect to one address: every step must succeed. -/
def connectTo (t : Transport) (address : SocketAddress) :
    ExceptT SystemError (StateM (World σ)) Socket := do
  let s ← attempt (perform E (.socket address))
  attempt (perform E (.noDelay s))
  attempt (perform E (.keepAlive s keepAliveSeconds))
  attempt (perform E (.connect s address t.limit))
  attempt (perform E (.readLimit s t.limit))
  attempt (perform E (.writeLimit s t.limit))
  return s

/-- Connect to the first address that answers. The error is that of the last one, or the given one
if there is none. -/
def connectAny (t : Transport) (msg : String) :
    SystemError → List SocketAddress → Act σ (Except SystemError Socket)
  | e, [] => return .error e
  | _, address :: rest => do
    say (.debug (msg ++ ", connecting to " ++ t.host ++ " (" ++ address.text ++ ")"))
    match ← (t.connectTo E address).run with
    | .ok s => return .ok s
    | .error e =>
      say (.warn ("Failed connecting to " ++ address.text ++ ": " ++ e.message))
      connectAny t msg e rest

/-- The error of a host without addresses. -/
def noAddresses : SystemError := .custom .notFound "no addresses resolved"

/-- Resolve the host and connect to the first address that answers. A transport that is connected
stays so. -/
def connect (t : Transport) (msg : String) : Act σ (Except TransportError Unit × Transport) := do
  if t.stream.isSome then
    return (.ok (), t)
  else
    match ← perform E (.resolve t.host t.port) with
    | .error e => return (.error (.invalidRemoteAddr t.host t.port e), t)
    | .ok addresses =>
      match ← t.connectAny E msg noAddresses addresses with
      | .ok s => return (.ok (), { t with stream := some s })
      | .error e => return (.error (.connectFailed t.host t.port e), t)

/-- A second socket for the connection. -/
def duplicate (t : Transport) : Act σ (Except TransportError Socket) := do
  match t.stream with
  | none => return .error .notConnected
  | some s =>
    match ← perform E (.duplicate s) with
    | .ok s' => return .ok s'
    | .error e => return .error (.socket e)

/-- Write all of some bytes. -/
def writeAll (s : Socket) (bytes : List UInt8) : Act σ (Except SystemError Unit) := do
  if bytes = [] then
    return .ok ()
  else
    match ← persist E (.write s bytes) with
    | .error e => return .error e
    | .ok last => writeAll s (bytes.drop (last.val + 1))
termination_by bytes.length
decreasing_by
  have := last.isLt
  simp only [List.length_drop]
  omega

/-- Send all bytes of a buffer. -/
def send (t : Transport) (bytes : List UInt8) : Act σ (Except TransportError Unit) := do
  match t.stream with
  | none => return .error .notConnected
  | some s =>
    match ← writeAll E s bytes with
    | .error e => return .error (.send e)
    | .ok () =>
      say (.debug ("Sent " ++ toString bytes.length ++ " bytes to " ++ t.endpoint))
      return .ok ()

/-- Read until there is no more room or the peer is done. The bytes that were read are returned also
if a later read fails. -/
def readAll (s : Socket) (room : Nat) : Act σ (Except SystemError Unit × List UInt8) := do
  if room = 0 then
    return (.ok (), [])
  else
    match ← persist E (.read s room) with
    | .error e => return (.error e, [])
    | .ok bytes =>
      if bytes.val = [] then
        return (.ok (), [])
      else
        let (r, rest) ← readAll s (room - bytes.val.length)
        return (r, bytes.val ++ rest)
termination_by room
decreasing_by
  have := List.length_pos_iff.2 ‹bytes.val ≠ []›
  omega

/-- The content of a buffer after bytes have been put in front. -/
def overwrite (buffer bytes : List UInt8) : List UInt8 := bytes ++ buffer.drop bytes.length

/-- Receive into a buffer until it is full or the peer is done: the number of bytes received, and
the buffer afterwards. -/
def recv (t : Transport) (buffer : List UInt8) :
    Act σ (Except TransportError Nat × List UInt8) := do
  match t.stream with
  | none => return (.error .notConnected, buffer)
  | some s =>
    let (r, bytes) ← readAll E s buffer.length
    match r with
    | .error e => return (.error (.recv e), overwrite buffer bytes)
    | .ok () =>
      say (.debug ("Received " ++ toString bytes.length ++ " bytes from " ++ t.endpoint))
      return (.ok bytes.length, overwrite buffer bytes)

/-- Shut down and forget the connection. A connection that is gone already is closed, and so is a
transport that was never connected. -/
def close (t : Transport) : Act σ (Except TransportError Unit × Transport) := do
  match t.stream with
  | none => return (.ok (), t)
  | some s =>
    let t := { t with stream := none }
    match ← perform E (.shutdown s) with
    | .ok () => return (.ok (), t)
    | .error e =>
      if e.kind = .notConnected then return (.ok (), t) else return (.error (.close e), t)

end Transport

end SecureStream
