import SecureStream.Environment
import SecureStream.Net.Literal
import SecureStream.Peer.Clock
import SecureStream.Peer.Faults
import SecureStream.Peer.Files
import SecureStream.Peer.Link
import SecureStream.Tls.Negotiation
import SecureStream.Tls.Verification

/-!
# A network with one scripted peer

An environment in which all that can be reached is one peer, once. Faults can be put on the client's
operations.

* `Profile`: what the peer is like;
* `Network`: files, names, faults, the peer, and the connection to it;
* `Network.answer`: the answer to each operation.
-/

namespace SecureStream.Peer

/-- How a peer proves who it is. -/
inductive Identity
  /-- The peer does not speak TLS. -/
  | plain
  /-- The peer has no certificate. -/
  | anonymous
  | certified (leaf : Certificate)

/-- What a peer is like. -/
structure Profile where
  port : UInt16
  identity : Identity
  minVersion : Option Version
  maxVersion : Option Version
  script : List Entry

/-- The latest version that a peer speaks, if it does not speak all. One without certificate knows
no suite of the versions after 1.2. -/
def Profile.latestVersion (p : Profile) : Option Version :=
  match p.identity with
  | .anonymous => some .tls12
  | _ => p.maxVersion

/-- The state of a network. -/
structure Network where
  files : Files
  names : List (String × List IpAddress)
  profile : Profile
  faults : Faults
  /-- The peer has accepted a connection. -/
  accepted : Bool
  link : Link
  /-- How the handshake ended, if there was one. -/
  secured : Option Bool
  /-- The name that the client asked for. -/
  asked : Option String
  /-- The rest of a record that the client has begun to read. -/
  opened : List UInt8
  /-- The client has seen the end of the session. -/
  sawEnd : Bool
  /-- The error that a record could not be written for. -/
  brokenWrite : Option SystemError
  nextSocket : Nat

namespace Network

/-- A network before anything has happened. -/
def start (files : Files) (names : List (String × List IpAddress)) (profile : Profile) :
    Network where
  files := files
  names := names
  profile := profile
  faults := .none
  accepted := false
  link := .start
  secured := none
  asked := none
  opened := []
  sawEnd := false
  brokenWrite := none
  nextSocket := 0

/-- The release of the TLS library. -/
def release : Release := ⟨0x30600000, "OpenSSL 3.6.0"⟩

/-- The longest name that the TLS library asks for, in bytes. -/
def nameLimit : Nat := 255

/-- The answer to a step of setting up: the library checks priority strings and the length of
names. -/
def setUp : Tls.SetUp → Except LibraryErrors Unit
  | .ciphers priority =>
    if (Cipher.Priority.read? priority).isSome then .ok () else .error .nonempty
  | .askName name | .expectHost name =>
    if name.utf8ByteSize ≤ nameLimit then .ok () else .error .nonempty
  | _ => .ok ()

/-- The addresses of a host: the one that its name spells, or those of the table. -/
def resolve (n : Network) (host : String) (port : UInt16) :
    Except SystemError (List SocketAddress) :=
  match IpAddress.ofText? host with
  | some ip => .ok [⟨ip, port⟩]
  | none =>
    if '\x00' ∈ host.toList then
      .error (.custom .invalidInput "file name contained an unexpected NUL byte")
    else
      match n.names.lookup host with
      | some ips => .ok (ips.map fun ip => ⟨ip, port⟩)
      | none =>
        .error (.custom .uncategorized
          "failed to lookup address information: Name or service not known")

/-- An operation fails if an error number has been set for it. -/
def faulty (fault : Nat) : Except SystemError Unit :=
  if fault = 0 then .ok () else .error (.os fault)

/-- A new socket. -/
def newSocket (n : Network) : Socket × Network :=
  (⟨n.nextSocket⟩, { n with nextSocket := n.nextSocket + 1 })

/-- The addresses of this machine. -/
def loopback : List IpAddress :=
  [.v4 ⟨127, 0, 0, 1⟩, .v6 ⟨[0, 0, 0, 0, 0, 0, 0, 1], rfl⟩]

/-- The peer follows its script from now on. -/
def takeUp (n : Network) : Network :=
  { n with link := n.link.takeUp n.profile.script }

/-- The peer accepts a connection. It takes up its script, unless a handshake has to come first. -/
def accept (n : Network) : Network :=
  let n := { n with accepted := true }
  match n.profile.identity with
  | .plain => n.takeUp
  | _ => n

/-- Connect to an address. The peer accepts one connection; without any time to wait the connection
is made and given up. -/
def connect (n : Network) (address : SocketAddress) (limit : Option Nat) :
    Except SystemError Unit × Network :=
  if n.accepted ∨ address.ip ∉ loopback ∨ address.port ≠ n.profile.port then
    (.error (.os 111), n)
  else if limit = some 0 then
    let n := n.accept
    (.error (.bare .timedOut), { n with link := n.link.finish })
  else
    (.ok (), n.accept)

/-- The error number of an interruption. -/
def interruption : Nat := 4

/-- A fault of reading, if there is one. -/
def readFault (n : Network) : Option SystemError × Network :=
  if 0 < n.faults.readInterruptions then
    (some (.os interruption),
      { n with faults := { n.faults with readInterruptions := n.faults.readInterruptions - 1 } })
  else if n.faults.read ≠ 0 ∧ n.faults.read ≠ interruption then (some (.os n.faults.read), n)
  else (none, n)

/-- A fault of writing, if there is one. Nothing can be written to a peer that has left. -/
def writeFault (n : Network) : Option SystemError × Network :=
  if 0 < n.faults.writeInterruptions then
    (some (.os interruption),
      { n with faults := { n.faults with writeInterruptions := n.faults.writeInterruptions - 1 } })
  else if n.faults.write ≠ 0 ∧ n.faults.write ≠ interruption then (some (.os n.faults.write), n)
  else if n.link.gone then (some (.os 32), n)
  else (none, n)

/-- A number of bytes under a limit, with zero for none. -/
def limited (limit count : Nat) : Nat := if limit = 0 then count else min limit count

theorem limited_le (limit count : Nat) : limited limit count ≤ count := by
  unfold limited
  split
  · exact Nat.le_refl _
  · exact Nat.min_le_right _ _

/-- The first of some bytes under a limit, with zero for none. -/
def piece (limit : Nat) (bytes : List UInt8) : List UInt8 :=
  if limit = 0 then bytes else bytes.take limit

theorem length_piece_le (limit : Nat) (bytes : List UInt8) :
    (piece limit bytes).length ≤ bytes.length := by
  unfold piece
  split
  · exact Nat.le_refl _
  · exact List.length_take_le' _ _

/-- What a reader finds that there is nothing to read for. A reset is found once. -/
def readEnding (n : Network) : Option SystemError × Network :=
  match n.link.outboxEnding with
  | .awaited => (some (.os 11), n)
  | .notified | .finished => (none, n)
  | .reset => (some (.os 104), { n with link := { n.link with outboxEnding := .finished } })

/-- A piece of at least one byte ends at one of them. -/
theorem pred_length_piece_lt (limit : Nat) (b : UInt8) (bs : List UInt8) :
    (piece limit (b :: bs)).length - 1 < (b :: bs).length :=
  Nat.lt_of_le_of_lt (Nat.pred_le_pred (length_piece_le limit (b :: bs))) (Nat.lt_succ_self _)

/-- Read from a plain connection. -/
def read (n : Network) (room : Nat) :
    Except SystemError { bytes : List UInt8 // bytes.length ≤ room } × Network :=
  match n.readFault with
  | (some e, n) => (.error e, n)
  | (none, n) =>
    let parts := Link.splitRecords (limited n.faults.readLimit room) n.link.outbox
    if parts.1 = [] then
      match n.readEnding with
      | (some e, n) => (.error e, n)
      | (none, n) => (.ok ⟨[], Nat.zero_le _⟩, n)
    else
      (.ok ⟨parts.1, Nat.le_trans (Link.length_splitRecords _ _) (limited_le _ _)⟩,
        { n with link := { n.link with outbox := parts.2 } })

/-- Write to a plain connection. Nobody writes no bytes. -/
def write (n : Network) : (bytes : List UInt8) → Except SystemError (Fin bytes.length) × Network
  | [] => (.error (.bare .invalidInput), n)
  | b :: bs =>
    match n.writeFault with
    | (some e, n) => (.error e, n)
    | (none, n) =>
      let taken := piece n.faults.writeLimit (b :: bs)
      (.ok ⟨taken.length - 1, pred_length_piece_lt _ b bs⟩, { n with link := n.link.put taken })

/-- The handshake with a peer that does not speak TLS: whatever it says is no answer. -/
def greet (n : Network) : Tls.Failure × Network :=
  if n.link.outbox.flatten = [] then
    match n.readEnding with
    | (some e, n) => (.ofSystem .wantRead e, n)
    | (none, n) => (⟨.syscall, .unknown⟩, n)
  else
    (⟨.ssl, .library .nonempty⟩, n)

/-- The two sides have nothing in common, or the verifier has refused. -/
def refused : Tls.Failure := ⟨.ssl, .library .nonempty⟩

/-- The handshake with a peer that speaks TLS: agree on version and suite, then verify. -/
def negotiate (n : Network) (request : Tls.Request) (verifier : Verifier) : Tls.Attempt :=
  match Tls.agreeVersion? request.context.minVersion n.profile.minVersion n.profile.latestVersion,
      n.profile.identity with
  | some .tls13, .certified leaf => verify leaf Version.tls13 Cipher.Suite.modern
  | some .tls12, .certified leaf =>
    match Tls.agreeSuite? request.context.priority fun s => s.authentication = .ecdsa with
    | some suite => verify leaf .tls12 suite
    | none => ⟨[], .error refused⟩
  | some _, .anonymous =>
    match Tls.agreeSuite? request.context.priority fun s => s.name = anonymousSuite with
    | some suite => ⟨[], .ok ⟨Version.tls12.text, some suite, none⟩⟩
    | none => ⟨[], .error refused⟩
  | _, _ => ⟨[], .error refused⟩
where
  /-- Let the verifier judge a leaf. -/
  verify (leaf : Certificate) (version : Version) (suite : String) : Tls.Attempt :=
    let (calls, accepted) := verifier.heed (Tls.verificationCalls Clock.now request leaf)
    ⟨calls, if accepted then .ok ⟨version.text, some suite, some leaf⟩ else .error refused⟩
  /-- The suite that a peer without certificate accepts. -/
  anonymousSuite : String := "AECDH-AES256-SHA"

/-- The handshake as far as the transport lets it. -/
def handshake (n : Network) (request : Tls.Request) (verifier : Verifier) :
    Tls.Attempt × Network :=
  match n.writeFault with
  | (some e, n) => (⟨[], .error (.ofSystem .wantWrite e)⟩, { n with secured := some false })
  | (none, n) =>
    match n.readFault with
    | (some e, n) => (⟨[], .error (.ofSystem .wantRead e)⟩, { n with secured := some false })
    | (none, n) =>
      match n.profile.identity with
      | .plain =>
        let (e, n) := n.greet
        (⟨[], .error e⟩, n)
      | _ =>
        let a := n.negotiate request verifier
        match a.outcome with
        | .ok _ =>
          (a, { n with secured := some true, asked := request.askedName }.takeUp)
        | .error _ => (a, { n with secured := some false })

/-- Some room takes at least one byte of a record, and no more than it holds. -/
theorem length_take_record {room : Nat} (h : 0 < room) (b : UInt8) (bs : List UInt8) :
    0 < ((b :: bs).take room).length ∧ ((b :: bs).take room).length ≤ room := by
  rw [List.length_take]
  exact ⟨Nat.lt_min.2 ⟨h, Nat.succ_pos _⟩, Nat.min_le_left _ _⟩

/-- Take bytes from the front of a record. -/
def takeRecord (n : Network) (room : Nat) (b : UInt8) (bs : List UInt8) :
    Except Tls.Failure { bytes : List UInt8 // 0 < bytes.length ∧ bytes.length ≤ room } × Network :=
  if h : 0 < room then
    (.ok ⟨(b :: bs).take room, length_take_record h b bs⟩,
      { n with opened := (b :: bs).drop room })
  else
    (.error ⟨.ssl, .unknown⟩, n)

/-- Read from one record of a session. What is left of a record is read without the transport. -/
def tlsRead (n : Network) (room : Nat) :
    Except Tls.Failure { bytes : List UInt8 // 0 < bytes.length ∧ bytes.length ≤ room } × Network :=
  match n.opened with
  | b :: bs => n.takeRecord room b bs
  | [] =>
    if n.sawEnd then (.error ⟨.zeroReturn, .unknown⟩, n)
    else
      match n.readFault with
      | (some e, n) => (.error (.ofSystem .wantRead e), n)
      | (none, n) =>
        match n.link.outbox with
        | (b :: bs) :: rest =>
          { n with link := { n.link with outbox := rest } }.takeRecord room b bs
        | _ =>
          match n.readEnding with
          | (some e, n) => (.error (.ofSystem .wantRead e), n)
          | (none, n) =>
            if n.link.outboxEnding = .notified then
              (.error ⟨.zeroReturn, .unknown⟩, { n with sawEnd := true })
            else
              (.error ⟨.syscall, .unknown⟩, n)

/-- What the library makes of a record that cannot be written: the cause is lost, unless the
transport would have blocked. -/
def hidden (e : SystemError) : Tls.Failure :=
  match Tls.Failure.ofSystem .wantWrite e with
  | ⟨.wantWrite, cause⟩ => ⟨.wantWrite, cause⟩
  | _ => ⟨.syscall, .unknown⟩

/-- Write to a session. -/
def tlsWrite (n : Network) (bytes : List UInt8) : Except Tls.Failure (Fin bytes.length) × Network :=
  match n.writeFault with
  | (some e, n) => (.error (hidden e), { n with brokenWrite := some e })
  | (none, n) =>
    if h : bytes.length - 1 < bytes.length then
      (.ok ⟨bytes.length - 1, h⟩, { n with link := n.link.put bytes })
    else
      (.error ⟨.ssl, .unknown⟩, n)

/-- What the library makes of the end of a session in which a record could not be written: now the
cause shows, unless the transport would have blocked. -/
def belated (e : SystemError) : Tls.Failure :=
  match Tls.Failure.ofSystem .wantWrite e with
  | ⟨.wantWrite, _⟩ => ⟨.wantWrite, .unknown⟩
  | e => e

/-- Announce the end of a session. -/
def tlsShutdown (n : Network) : Except Tls.Failure Unit × Network :=
  match n.brokenWrite with
  | some e => (.error (belated e), n)
  | none =>
    match n.writeFault with
    | (some e, n) => (.error (hidden e), n)
    | (none, n) => (.ok (), { n with link := n.link.finish })

/-- Shut the connection down. Whatever comes of it, the client sends no more. -/
def shutdown (n : Network) : Except SystemError Unit × Network :=
  (faulty n.faults.shutdown, { n with link := n.link.finish })

/-- The answer to each operation. -/
def answer : (op : Op) → Network → op.Answer × Network
  | .release, n => (release, n)
  | .readFile path, n => (n.files.read path, n)
  | .setUp step, n => (setUp step, n)
  | .set _, n => ((), n)
  | .resolve host port, n => (n.resolve host port, n)
  | .socket _, n =>
    match faulty n.faults.socket with
    | .error e => (.error e, n)
    | .ok () =>
      let (s, n) := n.newSocket
      (.ok s, n)
  | .noDelay _, n => (faulty n.faults.noDelay, n)
  | .keepAlive _ _, n => (faulty n.faults.keepAlive, n)
  | .connect _ address limit, n => n.connect address limit
  | .readLimit _ _, n => (.ok (), n)
  | .writeLimit _ _, n => (.ok (), n)
  | .duplicate _, n =>
    match faulty n.faults.duplicate with
    | .error e => (.error e, n)
    | .ok () =>
      let (s, n) := n.newSocket
      (.ok s, n)
  | .read _ room, n => n.read room
  | .write _ bytes, n => n.write bytes
  | .shutdown _, n => n.shutdown
  | .handshake _ request verifier, n => n.handshake request verifier
  | .tlsRead _ room, n => n.tlsRead room
  | .tlsWrite _ bytes, n => n.tlsWrite bytes
  | .tlsShutdown _, n => n.tlsShutdown

end Network

end SecureStream.Peer
