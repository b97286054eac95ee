import SecureStream.SystemError.Wording

/-!
# System errors

Why a call of the operating system, or something that behaves like one, failed.

* `SystemError.Kind`: the classes that operations tell apart or report;
* `SystemError`: an error number, a class with its fixed text, or a class with a text of its own;
* `SystemError.kind`, `SystemError.message`: class and text of an error;
* `SystemError.isTransient`: the call was interrupted and may simply be made again.
-/

namespace SecureStream

/-- A class of system errors. -/
inductive SystemError.Kind
  | notFound
  | permissionDenied
  | connectionRefused
  | connectionReset
  | connectionAborted
  | notConnected
  | brokenPipe
  | wouldBlock
  | invalidInput
  | timedOut
  | interrupted
  | unexpectedEof
  | other
  | uncategorized
  deriving DecidableEq

/-- A failure of a system call. -/
inductive SystemError
  /-- The system's error number. -/
  | os (number : Nat)
  /-- A class alone. -/
  | bare (kind : SystemError.Kind)
  /-- A class with a text of its own. -/
  | custom (kind : SystemError.Kind) (text : String)
  deriving DecidableEq

namespace SystemError

/-- The fixed text of a class. -/
def Kind.text : Kind → String
  | notFound => "entity not found"
  | permissionDenied => "permission denied"
  | connectionRefused => "connection refused"
  | connectionReset => "connection reset"
  | connectionAborted => "connection aborted"
  | notConnected => "not connected"
  | brokenPipe => "broken pipe"
  | wouldBlock => "operation would block"
  | invalidInput => "invalid input parameter"
  | timedOut => "timed out"
  | interrupted => "operation interrupted"
  | unexpectedEof => "unexpected end of file"
  | other => "other error"
  | uncategorized => "uncategorized error"

/-- The class of an error number. -/
def Kind.ofNumber (number : Nat) : Kind :=
  match number with
  | 1 | 13 => permissionDenied
  | 2 => notFound
  | 4 => interrupted
  | 11 => wouldBlock
  | 22 => invalidInput
  | 32 => brokenPipe
  | 103 => connectionAborted
  | 104 => connectionReset
  | 107 => notConnected
  | 110 => timedOut
  | 111 => connectionRefused
  | _ => uncategorized

/-- The class of an error. -/
def kind : SystemError → Kind
  | os number => .ofNumber number
  | bare kind => kind
  | custom kind _ => kind

/-- The text of an error. -/
def message : SystemError → String
  | os number => wording number ++ " (os error " ++ toString number ++ ")"
  | bare kind => kind.text
  | custom _ text => text

/-- The call was interrupted: making it again has no other effect. -/
def isTransient (e : SystemError) : Bool := e.kind = .interrupted

end SystemError

end SecureStream
