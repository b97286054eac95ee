/-!
# A connection to a scripted peer

The peer follows its script as far as the bytes that have arrived allow, as soon as anything
changes.

* `Entry`: one thing that a peer does;
* `Ending`: how the stream to the client ends;
* `Link`: the two streams of a connection and what is left of the script;
* `Link.advance`: follow the script;
* `Link.put`, `Link.finish`: bytes from the client, and the end of its stream.
-/

namespace SecureStream.Peer

/-- One thing that a peer does. -/
inductive Entry
  /-- Read so many bytes, or as many as there are up to the end of the stream. -/
  | read (count : Nat)
  | write (bytes : List UInt8)
  /-- Announce the end of the TLS session. -/
  | notify
  /-- End the stream to the client. -/
  | fin
  /-- Close the connection and leave. -/
  | drop
  /-- Reset the connection and leave. -/
  | reset
  deriving DecidableEq

/-- How the stream to the client ends. -/
inductive Ending
  /-- Not yet. -/
  | awaited
  /-- With the end of the TLS session. -/
  | notified
  | finished
  /-- With a reset that the client has not seen yet. -/
  | reset
  deriving DecidableEq

/-- The end of a stream that ends now, unless it has ended before. -/
def Ending.orFinished : Ending → Ending
  | awaited => finished
  | e => e

/-- A connection between a client and a scripted peer. -/
structure Link where
  script : List Entry
  /-- The peer has left. -/
  gone : Bool
  /-- Bytes from the client that the peer has not read, the latest piece first. -/
  inbox : List (List UInt8)
  /-- The number of those bytes. -/
  inboxSize : Nat
  /-- The client sends no more. -/
  inboxEnded : Bool
  /-- Records for the client, the earliest first. -/
  outbox : List (List UInt8)
  outboxEnding : Ending
  /-- What the peer has read, the latest first. -/
  received : List (List UInt8)

namespace Link

/-- The greatest length of a record. -/
def recordLimit : Nat := 16384

/-- Bytes in records of the greatest length, but for the last one. -/
def records (bytes : List UInt8) : List (List UInt8) :=
  if bytes.length ≤ recordLimit then
    if bytes = [] then [] else [bytes]
  else
    bytes.take recordLimit :: records (bytes.drop recordLimit)
termination_by bytes.length
decreasing_by
  simp only [List.length_drop, recordLimit] at *
  omega

/-- A connection that has just been made. -/
def start : Link := ⟨[], false, [], 0, false, [], .awaited, []⟩

/-- The bytes that the peer has not read. -/
def inboxBytes (l : Link) : List UInt8 := l.inbox.reverse.flatten

/-- Do what the script says, except to read. -/
def act (l : Link) : Entry → Link
  | .read count =>
    let bytes := l.inboxBytes
    { l with
      inbox := [bytes.drop count]
      inboxSize := l.inboxSize - count
      received := bytes.take count :: l.received }
  | .write bytes => { l with outbox := l.outbox ++ records bytes }
  | .notify => { l with outboxEnding := .notified }
  | .fin => { l with outboxEnding := l.outboxEnding.orFinished }
  | .drop => { l with outboxEnding := l.outboxEnding.orFinished, gone := true }
  | .reset => { l with outboxEnding := .reset, gone := true }

/-- The peer can do what its script says next. -/
def isReady (l : Link) : Entry → Bool
  | .read count => l.inboxEnded || count ≤ l.inboxSize
  | _ => true

/-- Follow some entries of a script as far as possible. -/
def follow (l : Link) : List Entry → Link
  | [] => { l with script := [] }
  | e :: es =>
    if l.gone then l
    else if l.isReady e then follow (l.act e) es
    else { l with script := e :: es }

/-- Follow the script as far as possible. -/
def advance (l : Link) : Link := l.follow l.script

/-- Begin a script. -/
def takeUp (l : Link) (script : List Entry) : Link := l.follow script

/-- Take in bytes from the client. -/
def put (l : Link) (bytes : List UInt8) : Link :=
  ({ l with inbox := bytes :: l.inbox, inboxSize := l.inboxSize + bytes.length }).advance

/-- The first bytes of some records, at most so many, and what is left of the records. -/
def splitRecords : Nat → List (List UInt8) → List UInt8 × List (List UInt8)
  | _, [] => ([], [])
  | count, r :: rs =>
    let bytes := r.take count
    if bytes.length < count then
      let (more, rest) := splitRecords (count - bytes.length) rs
      (bytes ++ more, rest)
    else
      (bytes, r.drop count :: rs)

theorem length_splitRecords (count : Nat) (rs : List (List UInt8)) :
    (splitRecords count rs).1.length ≤ count := by
  induction rs generalizing count with
  | nil => exact Nat.zero_le _
  | cons r rs ih =>
    unfold splitRecords
    dsimp only
    split
    · have := ih (count - (r.take count).length)
      simp only [List.length_append]
      omega
    · exact List.length_take_le _ _

/-- The client sends no more. -/
def finish (l : Link) : Link := ({ l with inboxEnded := true }).advance

/-- What the peer has read until the end: what its script said, and then the rest if there is any. A
peer that has left reads no rest. -/
def report (l : Link) : List (List UInt8) :=
  let l := l.finish
  let rest := l.inboxBytes
  l.received.reverse ++ (if l.gone ∨ rest = [] then [] else [rest])

end Link

end SecureStream.Peer
