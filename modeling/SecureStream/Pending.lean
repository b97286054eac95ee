import SecureStream.ConnectionError
import SecureStream.Context
import SecureStream.Net.Literal

/-!
# Pending sessions

A session that is bound to a server name and waits for a connection.

* `Pending`: what the TLS library will be asked for, and a verifier that has seen nothing;
* `Pending.nameFault?`: why a name cannot be a server name;
* `Pending.bind`: the identity that the peer must have;
* `Pending.create`: a pending session of a context.
-/

namespace SecureStream

/-- A session that waits for its connection. -/
structure Pending where
  request : Tls.Request
  verifier : Verifier

namespace Pending

/-- Why a name cannot be a server name, whatever else is asked for. -/
def nameFault? (name : String) : Option String :=
  if name = "" then some "empty server name"
  else if '\x00' ∈ name.toList then some "server name contains a NUL byte"
  else none

/-- The settings of a new session: nobody is asked for, and any peer that proves its identity is
expected. -/
def unbound (context : Tls.Context) : Tls.Request := ⟨context, .peer, none, none, none⟩

variable {σ : Type} (E : Environment σ)

/-- Bind a session to the identity that its peer must have. An address literal is looked for among
the addresses of the certificate, and the peer is not asked for it; any other name is asked for and
looked for among the host names. -/
def bind (context : Tls.Context) (name : String) :
    ExceptT LibraryErrors (StateM (World σ)) Tls.Request := do
  match IpAddress.ofText? name with
  | some ip =>
    Context.setUp E (.expectIp ip)
    return { unbound context with expectedIp := some ip }
  | none =>
    Context.setUp E (.askName name)
    Context.setUp E (.expectHost name)
    return { unbound context with askedName := some name, expectedHost := some name }

/-- What is logged about a set-up error. -/
def setUpLine? : SetupError → Option LogLine
  | .invalidPriority priority errors =>
    some (.error ("Syntax error in TLS priority string '" ++ priority ++ "': " ++ errors.message))
  | _ => none

/-- The TLS library's settings for a session, a failure being logged. -/
def settings (ctx : Context) (priority : Option String) :
    ExceptT ConnectionError (StateM (World σ)) Tls.Context := fun w =>
  match (ctx.settings E priority).run w with
  | (.ok library, w) => (.ok library, w)
  | (.error e, w) => (.error (.ofSetup e), w.record (setUpLine? e).toList)

/-- Make a session of a context that is bound to a server name. -/
def create (ctx : Context) (name : String) (priority : Option String) :
    ExceptT ConnectionError (StateM (World σ)) Pending := do
  match nameFault? name with
  | some reason => throw (.serverName name reason)
  | none =>
    let library ← settings E ctx priority
    (Context.setUp E .newSession).adapt fun errors => ConnectionError.setup (.library errors)
    let request ← (bind E library name).adapt fun errors =>
      ConnectionError.serverName name errors.message
    return ⟨request, .fresh name ctx.config.policy⟩

end Pending

end SecureStream
