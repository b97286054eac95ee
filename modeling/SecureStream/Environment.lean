import SecureStream.Retry
import SecureStream.SystemError
import SecureStream.Tls.Request

/-!
# The environment

Everything outside of this library that a connection deals with: files, name resolution, sockets and
the TLS library. An environment is any answer to each operation, given by a state of its own.

* `Op`, `Op.Answer`: the operations and what may be answered to them;
* `Environment`: an answer to every operation, interruptions coming to an end;
* `World`: the environment's state with a record of what was done and logged, as one context and
  those who share it know it;
* `Act`, `perform`, `persist`, `say`: steps that go from world to world.
-/

namespace SecureStream

/-- A socket of the system. -/
structure Socket where
  id : Nat
  deriving DecidableEq

/-- The release of the TLS library. -/
structure Release where
  number : Nat
  text : String
  deriving DecidableEq

/-- An operation of the environment. Times are in milliseconds; a missing limit is none. -/
inductive Op
  | release
  | readFile (path : String)
  | setUp (step : Tls.SetUp)
  | set (setting : Tls.Setting)
  | resolve (host : String) (port : UInt16)
  | socket (address : SocketAddress)
  | noDelay (s : Socket)
  | keepAlive (s : Socket) (seconds : Nat)
  | connect (s : Socket) (address : SocketAddress) (limit : Option Nat)
  | readLimit (s : Socket) (limit : Option Nat)
  | writeLimit (s : Socket) (limit : Option Nat)
  | duplicate (s : Socket)
  | read (s : Socket) (room : Nat)
  | write (s : Socket) (bytes : List UInt8)
  | shutdown (s : Socket)
  | handshake (s : Socket) (request : Tls.Request) (verifier : Verifier)
  | tlsRead (s : Socket) (room : Nat)
  | tlsWrite (s : Socket) (bytes : List UInt8)
  | tlsShutdown (s : Socket)
  deriving DecidableEq

namespace Op

/-- The answers that are possible. A read delivers no more than there is room for, and only a plain
read may deliver nothing, at the end of the stream. A write takes at least one byte and answers with
the place of the last byte it took. -/
abbrev Answer : Op → Type
  | release => Release
  | readFile _ => Except SystemError (List UInt8)
  | setUp _ => Except LibraryErrors Unit
  | set _ => Unit
  | resolve _ _ => Except SystemError (List SocketAddress)
  | socket _ => Except SystemError Socket
  | noDelay _ => Except SystemError Unit
  | keepAlive _ _ => Except SystemError Unit
  | connect _ _ _ => Except SystemError Unit
  | readLimit _ _ => Except SystemError Unit
  | writeLimit _ _ => Except SystemError Unit
  | duplicate _ => Except SystemError Socket
  | read _ room => Except SystemError { bytes : List UInt8 // bytes.length ≤ room }
  | write _ bytes => Except SystemError (Fin bytes.length)
  | shutdown _ => Except SystemError Unit
  | handshake _ _ _ => Tls.Attempt
  | tlsRead _ room =>
    Except Tls.Failure { bytes : List UInt8 // 0 < bytes.length ∧ bytes.length ≤ room }
  | tlsWrite _ bytes => Except Tls.Failure (Fin bytes.length)
  | tlsShutdown _ => Except Tls.Failure Unit

/-- The answer says that the operation was interrupted, and that it may be made again. -/
def isTransient : (op : Op) → op.Answer → Bool
  | read _ _, .error e => e.isTransient
  | write _ _, .error e => e.isTransient
  | handshake _ _ _, a => match a.outcome with
    | .error e => e.isTransient
    | .ok _ => false
  | tlsRead _ _, .error e => e.isTransient
  | tlsWrite _ _, .error e => e.isTransient
  | _, _ => false

end Op

/-- Something that answers every operation. Its `patience` bounds how often in a row it may answer
that an operation was interrupted. -/
structure Environment (σ : Type) where
  answer : (op : Op) → σ → op.Answer × σ
  patience : σ → Nat
  patience_lt : ∀ op s, op.isTransient (answer op s).1 = true →
    patience (answer op s).2 < patience s

/-- An operation with the answer to it. -/
structure Event where
  op : Op
  answer : op.Answer

/-- The state of the environment, and what has happened so far, the latest event and line first. A
world is that of one context and of those who share it. Another context has a world of its own, and
what is done there is up to the environment here. -/
structure World (σ : Type) where
  state : σ
  /-- The sessions of the context that are open. -/
  openSessions : Nat
  past : List Event
  lines : List LogLine

/-- A step from world to world. -/
abbrev Act (σ α : Type) := StateM (World σ) α

namespace World

variable {σ : Type}

/-- A world in which nothing has happened. -/
def start (state : σ) : World σ := ⟨state, 0, [], []⟩

/-- What has happened, in order. -/
def trace (w : World σ) : List Event := w.past.reverse

/-- What has been logged, in order. -/
def log (w : World σ) : List LogLine := w.lines.reverse

/-- Log some lines. -/
def record (w : World σ) (lines : List LogLine) : World σ :=
  { w with lines := lines.reverse ++ w.lines }

end World

section

variable {σ : Type} (E : Environment σ)

/-- Log one line. -/
def say (line : LogLine) : Act σ Unit := modify (·.record [line])

/-- Make one operation, and note the event. -/
def perform (op : Op) : Act σ op.Answer := fun w =>
  let (a, s) := E.answer op w.state
  (a, { w with state := s, past := ⟨op, a⟩ :: w.past })

theorem bounded_perform (op : Op) :
    Retry.Bounded (perform E op) op.isTransient fun w => E.patience w.state :=
  fun w => E.patience_lt op w.state

/-- Make one operation, again and again while it is interrupted. -/
def persist (op : Op) : Act σ op.Answer := Retry.run (bounded_perform E op)

/-- Make one operation that may fail. -/
def attempt {ε α : Type} (step : Act σ (Except ε α)) : ExceptT ε (StateM (World σ)) α := step

end

end SecureStream
