import SecureStream.Tls.HostName
import SecureStream.Tls.Request

/-!
# Verification of a certificate

What the TLS library finds wrong with a peer's certificate, in the order in which it tells the
verifier: first the chain, then the identity, then the validity from the trust anchor to the leaf.

* `Tls.issuer?`: the trust anchor that a leaf was issued by;
* `Tls.identityCalls`, `Tls.validityCalls`: the calls about identity and validity;
* `Tls.verificationCalls`: all calls, as long as each of them is accepted.
-/

namespace SecureStream.Tls

/-- The time lies in the period. -/
def isValidAt (now : Time) (v : Validity) : Bool :=
  !now.isBefore v.notBefore && now.isBefore v.notAfter

/-- The later ending one of two certificates, the first if they end together. -/
def laterEnding (a b : Certificate) : Certificate :=
  if a.validity.notAfter.isBefore b.validity.notAfter then b else a

/-- The trust anchor that a leaf was issued by: one that is valid, or else the one that ends
last. -/
def issuer? (now : Time) (anchors : List Certificate) (leaf : Certificate) : Option Certificate :=
  match anchors.filter (·.subject = leaf.issuer) with
  | [] => none
  | a :: rest => some (((a :: rest).find? fun c => isValidAt now c.validity).getD
      (rest.foldl laterEnding a))

/-- A call about a failed check. -/
def failing (code : Int) (depth : Int) : Callback := ⟨false, code, depth, true⟩

/-- The call that a certificate was passed. -/
def passing (depth : Int) : Callback := ⟨true, 0, depth, true⟩

/-- The calls about the identity that is expected. -/
def identityCalls (request : Request) (leaf : Certificate) : List Callback :=
  (match request.expectedHost with
    | some host => if leaf.coversHost host then [] else [failing 62 0]
    | none => []) ++
  (match request.expectedIp with
    | some ip => if leaf.coversIp ip then [] else [failing 64 0]
    | none => [])

/-- The calls about one certificate's validity. -/
def validityCalls (now : Time) (c : Certificate) (depth : Int) : List Callback :=
  (if now.isBefore c.validity.notBefore then [failing 9 depth] else []) ++
  (if now.isBefore c.validity.notAfter then [] else [failing 10 depth]) ++
  [passing depth]

/-- All calls about a leaf that comes alone. -/
def verificationCalls (now : Time) (request : Request) (leaf : Certificate) : List Callback :=
  match issuer? now request.context.anchors leaf with
  | some anchor =>
    identityCalls request leaf ++ validityCalls now anchor 1 ++ validityCalls now leaf 0
  | none => [failing (if leaf.issuer = leaf.subject then 18 else 20) 0]

end SecureStream.Tls
