import SecureStream.SystemError

/-!
# Failures of the TLS library

* `LibraryErrors`: the library's error queue after a failed call;
* `Tls.Failure.Code`: what the library says about a failed handshake, read, write or shutdown;
* `Tls.Failure`: such a code with its cause;
* `Tls.Failure.isTransient`: the operation may simply be made again;
* `Tls.Failure.isEndOfStream`: a failed read that only says that the peer is done.
-/

namespace SecureStream

/-- The TLS library's error queue. Its entries are the library's own diagnostics; of these only
their presence is modelled. -/
inductive LibraryErrors
  | empty
  | nonempty
  deriving DecidableEq

namespace LibraryErrors

/-- The text of the queue; the placeholder stands for the library's diagnostics. -/
def message : LibraryErrors → String
  | empty => "OpenSSL error"
  | nonempty => "<openssl>"

end LibraryErrors

namespace Tls

/-- The library's classification of a failed operation. -/
inductive Failure.Code
  /-- The peer has closed the session. -/
  | zeroReturn
  /-- The operation waits for input. -/
  | wantRead
  /-- The operation waits for room to write. -/
  | wantWrite
  /-- The transport below failed. -/
  | syscall
  /-- The protocol failed. -/
  | ssl
  /-- Any other code of the library. -/
  | other (number : Int)
  deriving DecidableEq

/-- What lies behind a failed operation. -/
inductive Failure.Cause
  /-- Nothing more is known. -/
  | unknown
  /-- The transport's error. -/
  | system (error : SystemError)
  /-- The library's error queue. -/
  | library (errors : LibraryErrors)
  deriving DecidableEq

/-- A failed operation of the TLS library. -/
structure Failure where
  code : Failure.Code
  cause : Failure.Cause
  deriving DecidableEq

namespace Failure

/-- The transport's error, if that is the cause. -/
def systemError? (e : Failure) : Option SystemError :=
  match e.cause with
  | .system error => some error
  | _ => none

/-- The text of a failure. -/
def message (e : Failure) : String :=
  match e.code, e.cause with
  | .zeroReturn, _ => "the SSL session has been shut down"
  | .wantRead, .system _ => "a nonblocking read call would have blocked"
  | .wantWrite, .system _ => "a nonblocking write call would have blocked"
  | .wantRead, _ | .wantWrite, _ => "the operation should be retried"
  | .syscall, .system error => error.message
  | .syscall, _ => "unexpected EOF"
  | .ssl, .library errors => errors.message
  | .ssl, _ => "OpenSSL error"
  | .other number, _ => "unknown error code " ++ toString number

/-- An operation may be made again if its transport was interrupted, or if it only waits without
the transport having failed. The transport blocks, so a wait that comes from a transport error
means that a time limit ran out, and is final. -/
def isTransient (e : Failure) : Bool :=
  match e.systemError? with
  | some error => error.isTransient
  | none => e.code = .wantRead || e.code = .wantWrite

/-- The code of a failure only counts if the transport has not failed. -/
theorem isTransient_iff (e : Failure) : e.isTransient = true ↔
    (∃ error, e.systemError? = some error ∧ error.isTransient = true) ∨
      (e.systemError? = none ∧ (e.code = .wantRead ∨ e.code = .wantWrite)) := by
  unfold isTransient
  cases e.systemError? with
  | none => simp
  | some error => simp

/-- The peer closed the session, or the transport ended without saying so. -/
def isEndOfStream (e : Failure) : Bool :=
  e.code = .zeroReturn || (e.code = .syscall && e.systemError?.isNone)

/-- The texts of a failure's cause, outermost first. -/
def sources (e : Failure) : List String :=
  match e.cause with
  | .unknown => []
  | .system error => [error.message]
  | .library errors => [errors.message]

/-- The transport failed: a wait if it would have blocked or is not connected, else a failed
call. -/
def ofSystem (wait : Code) (error : SystemError) : Failure :=
  match error.kind with
  | .wouldBlock | .notConnected => ⟨wait, .system error⟩
  | _ => ⟨.syscall, .system error⟩

end Failure

end Tls

end SecureStream
