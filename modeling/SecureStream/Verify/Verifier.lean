import SecureStream.Log
import SecureStream.Verify.Policy

/-!
# The verifier of a session

The TLS library calls the verifier once for each certificate of the chain and once for each thing
it finds wrong. The verifier collects the findings, warns about each kind once, and decides whether
the handshake may go on.

* `Verifier`: the server name, the policy and the findings so far;
* `Verifier.record`: take in a batch of findings;
* `Verifier.check`: answer one call of the library;
* `Verifier.observe`: answer calls in order;
* `Verifier.heed`: the calls that are made if the first refusal ends them.
-/

namespace SecureStream

/-- Whether the handshake may go on. -/
inductive Verdict
  | proceed
  | reject
  deriving DecidableEq

/-- One call of the TLS library: whether its own checks passed, the error code otherwise, the place
in the chain (the leaf has depth 0), and whether the chain at hand has a leaf. -/
structure Callback where
  passed : Bool
  code : Int
  depth : Int
  hasLeaf : Bool
  deriving DecidableEq

/-- What one session has found out about its peer. -/
structure Verifier where
  serverName : String
  policy : Policy
  status : CertStatus
  deriving DecidableEq

namespace Verifier

/-- A verifier that has seen nothing. -/
def fresh (serverName : String) (policy : Policy) : Verifier := ⟨serverName, policy, ∅⟩

/-- The warning for a flag. An untrusted chain and a foreign host name have none, since they are
errors under every policy. -/
def warning : Flag → Option String
  | .signerNotFound => some "The certificate does not have a known issuer."
  | .revoked => some "The certificate has been revoked."
  | .expired => some "The certificate has expired."
  | .notActivated => some "The certificate is not yet activated."
  | .invalid | .hostnameMismatch => none

/-- The warnings for a status, in printing order of its flags. -/
def warnings (fresh : CertStatus) : List LogLine :=
  (fresh.toList.filterMap warning).map .warn

/-- The error that a batch of findings causes, if it ends the handshake. An untrusted chain comes
before a foreign host name, and that before all else that the policy forbids. -/
def objection (v : Verifier) (found : CertStatus) : Option LogLine :=
  if .invalid ∈ found then
    some (.error "The certificate is not trusted.")
  else if .hostnameMismatch ∈ found then
    some (.error ("The certificate's owner does not match the hostname '" ++ v.serverName ++ "'"))
  else if found.meets v.policy.fatal then
    some (.error ("Certificate rejected by strict verification policy: " ++ found.text))
  else
    none

/-- Take in a batch of findings: warn about the new ones, then object or go on. -/
def record (v : Verifier) (found : CertStatus) : Verdict × List LogLine × Verifier :=
  let lines := warnings (found \ v.status)
  let v' := { v with status := v.status ∪ found }
  match v.objection found with
  | some line => (.reject, lines ++ [line], v')
  | none => (.proceed, lines, v')

/-- Answer one call of the library. A failed check is recorded; a passed one is accepted, but the
leaf must be there when its turn comes. -/
def check (v : Verifier) (call : Callback) : Verdict × List LogLine × Verifier :=
  if call.passed then
    if call.depth = 0 ∧ ¬ call.hasLeaf then
      (.reject, [.error "No certificate was found!"], v)
    else
      (.proceed, [], v)
  else
    v.record (.ofCode call.code)

/-- Answer calls in order. -/
def observe (v : Verifier) : List Callback → List LogLine × Verifier
  | [] => ([], v)
  | call :: calls =>
    let (_, lines, v') := v.check call
    let (lines', v'') := observe v' calls
    (lines ++ lines', v'')

/-- The calls up to the first one that is refused, and whether there is none. -/
def heed (v : Verifier) : List Callback → List Callback × Bool
  | [] => ([], true)
  | call :: calls =>
    match v.check call with
    | (.reject, _, _) => ([call], false)
    | (.proceed, _, v') =>
      let (made, accepted) := heed v' calls
      (call :: made, accepted)

end Verifier

end SecureStream
