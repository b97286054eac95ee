import SecureStream.Config
import SecureStream.Environment
import SecureStream.Text.Quoted
import SecureStream.TrustStore

/-!
# The TLS context

What all sessions share: the configuration, the trust anchors, and the TLS library's settings made
of them. How many of its sessions are open is known to the world of the context.

* `Context.build`: the TLS library's settings for a priority string;
* `Context.init`: check the library, load the trust anchors, make the settings;
* `Context.initOrExit`: the same for a program that has to end otherwise;
* `Context.settings`: the settings for one session, which may have a priority string of its own;
* `Context.exit`: give the context up.
-/

namespace SecureStream

/-- A TLS context. It never changes, apart from the number of its open sessions, which its world
keeps. -/
structure Context where
  config : Config
  trust : TrustStore
  library : Tls.Context

namespace Context

variable {σ : Type} (E : Environment σ)

/-- A step that sets something up. -/
def setUp (step : Tls.SetUp) : ExceptT LibraryErrors (StateM (World σ)) Unit :=
  attempt (perform E (.setUp step))

/-- A step that sets something up, whose failure is an error of the library. -/
def setUpOr (error : LibraryErrors → SetupError) (step : Tls.SetUp) :
    ExceptT SetupError (StateM (World σ)) Unit :=
  (setUp E step).adapt error

/-- The TLS library's settings for some trust anchors, a priority string and a version floor. -/
def build (trust : TrustStore) (priority : String) (minVersion : Option Version) :
    ExceptT SetupError (StateM (World σ)) Tls.Context := do
  setUpOr E .library .newContext
  setUpOr E (.invalidPriority priority) (.ciphers priority)
  match minVersion with
  | some version => setUpOr E .library (.minVersion version)
  | none => pure ()
  setUpOr E .library (.anchors trust.anchors)
  (perform E (.set (.verifyMode .peer)) : Act σ Unit)
  (perform E (.set (.sessionCache false)) : Act σ Unit)
  return ⟨priority, minVersion, trust.anchors, .peer, false⟩

/-- The number of the oldest supported release of the TLS library. -/
def minRelease : Nat := 269488128

/-- The TLS library is recent enough. -/
def checkRelease (release : Release) : Except SetupError Unit :=
  if release.number < minRelease then .error (.libraryTooOld release.text) else .ok ()

/-- Make a context: check the library, load the trust anchors, make the settings. -/
def init (config : Config) : ExceptT SetupError (StateM (World σ)) Context := do
  let release ← (perform E .release : Act σ Release)
  attempt (pure (checkRelease release))
  let content ← (perform E (.readFile config.caFile) : Act σ _)
  let trust ← attempt (pure (TrustStore.ofFile config.caFile content))
  let library ← build E trust config.priority config.minVersion
  let line := "Loaded " ++ toString trust.size ++ " trusted CA certificates from " ++ trust.path
  (say (.info line) : Act σ Unit)
  return ⟨config, trust, library⟩

/-- The status that a program ends with if it has no context. -/
def failureStatus : Nat := 1

/-- Make a context for a program that cannot go on without one: a failure is logged, and the program
has to end with the given status. -/
def initOrExit (config : Config) : ExceptT Nat (StateM (World σ)) Context := fun w =>
  match (init E config).run w with
  | (.ok ctx, w) => (.ok ctx, w)
  | (.error e, w) =>
    (.error failureStatus, w.record [.error ("TLS initialization failed: " ++ e.message)])

/-- The settings for a session. One without a priority string of its own, or with the same one,
shares the settings of the context; others are made anew over the same trust anchors. -/
def settings (ctx : Context) (priority : Option String) :
    ExceptT SetupError (StateM (World σ)) Tls.Context :=
  match priority with
  | some p =>
    if p = ctx.config.priority then pure ctx.library
    else build E ctx.trust p ctx.config.minVersion
  | none => pure ctx.library

/-- Give a context up. Sessions that are still open are a mistake of the caller. -/
def exit : Act σ Unit := do
  let count := (← get).openSessions
  if 0 < count then
    say (.warn ("TLS context released with " ++ toString count ++ " session(s) still open"))
  say (.debug "TLS context released")

/-- The description of a configuration. -/
def describeConfig (c : Config) : String :=
  Text.describe "TlsConfig" [
    ("ca_file", Text.quote c.caFile),
    ("priority", Text.quote c.priority),
    ("verify_policy", c.policy.text),
    ("min_version", Text.quoteOption (c.minVersion.map Version.name))]

/-- The description of a context while a number of sessions is open. -/
def describe (ctx : Context) (openSessions : Nat) : String :=
  Text.describe "TlsContext" [
    ("config", describeConfig ctx.config),
    ("trusted_cas", toString ctx.trust.size),
    ("open_sessions", toString openSessions)]

end Context

end SecureStream
