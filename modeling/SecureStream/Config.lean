import SecureStream.Verify.Policy
import SecureStream.Version

/-!
# TLS configuration

What all sessions of a context have in common.

* `Config`: bundle of trust anchors, priority string, policy and version floor;
* `Config.Setter`, `Config.apply`: the changes that a caller makes to the defaults;
* `Config.build`: a configuration that makes sense, or the reason why it does not.
-/

namespace SecureStream

/-- The settings of a TLS context. -/
structure Config where
  caFile : String
  priority : String
  policy : Policy
  minVersion : Option Version
  deriving DecidableEq

namespace Config

/-- Where the system keeps its trust anchors. -/
def defaultCaFile : String := "/etc/ssl/certs/ca-certificates.crt"

/-- The TLS library's own choice of ciphers. -/
def defaultPriority : String := "DEFAULT"

/-- The settings before any change. -/
def default : Config := ⟨defaultCaFile, defaultPriority, Policy.lenient, none⟩

instance : Inhabited Config := ⟨default⟩

/-- One change of a setting. -/
inductive Setter
  | caFile (path : String)
  | priority (text : String)
  | policy (policy : Policy)
  | minVersion (version : Version)

/-- Make one change. -/
def set (c : Config) : Setter → Config
  | .caFile path => { c with caFile := path }
  | .priority text => { c with priority := text }
  | .policy policy => { c with policy }
  | .minVersion version => { c with minVersion := some version }

/-- Accept the settings, unless the priority string is blank. -/
def build (c : Config) : Except SetupError Config :=
  if Text.trim c.priority.toList = [] then
    .error (.invalidConfig "empty TLS priority string")
  else
    .ok c

end Config

end SecureStream
