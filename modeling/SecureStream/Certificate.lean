import SecureStream.Name

/-!
# Certificates

What is read from an X.509 certificate. Signatures and keys are passed over.

* `GeneralName`: an alternative name of the subject;
* `Time`, `Validity`: when a certificate is valid;
* `Certificate`: names, validity, alternative names, and the encoding they were read from;
* `Certificate.decode?`: the certificate in front of some bytes.
-/

namespace SecureStream

open Asn1

/-- An alternative name of a certificate's subject, with its content octets where they matter. -/
inductive GeneralName
  | dns (octets : List UInt8)
  | ip (octets : List UInt8)
  | other
  deriving DecidableEq

namespace GeneralName

/-- An element that counts as a name of another kind. -/
def otherOf {α : Type} (read : Reader α) : Reader GeneralName := fun bs =>
  (read bs).refine fun _ => some other

/-- The first reader that finds its tag. -/
def firstOf : List (Reader GeneralName) → Reader GeneralName
  | [], _ => .absent
  | read :: reads, bs =>
    match read bs with
    | .absent => firstOf reads bs
    | o => o

/-- A text of one of the types of a directory string. -/
def directoryString : Reader (Nat × List UInt8) := oneOf [12, 19, 20, 28, 30]

/-- A general name. -/
def read : Reader GeneralName :=
  firstOf [
    otherOf (sequence (.context 0) fun s => do
      let (_, s) ← s.required objectId
      s.required (explicit (.context 0) anything)),
    otherOf (octets (.context 1) 22),
    fun bs => (octets (.context 2) 22 bs).refine fun content => some (dns content),
    otherOf (octets (.context 3) 16),
    otherOf (explicit (.context 4) Name.read),
    otherOf (sequence (.context 5) fun s => do
      let (_, s) ← s.optional (explicit (.context 0) directoryString)
      s.required (explicit (.context 1) directoryString)),
    otherOf (octets (.context 6) 22),
    fun bs => (octets (.context 7) 4 bs).refine fun content => some (ip content),
    otherOf (octets (.context 8) 6)]

/-- The names in an extension's content, if it is well-formed; bytes behind them do not matter. -/
def decodeAll? (bs : List UInt8) : Option (List GeneralName) :=
  (manyOf .sequence read bs).get?.map (·.1)

end GeneralName

/-- A point in time, as the octets of year, month, day, hour, minute and second. -/
structure Time where
  octets : List UInt8
  deriving DecidableEq

namespace Time

/-- Times are compared as texts of equal length. -/
def isBefore (s t : Time) : Bool := s.octets < t.octets

/-- The time of a certificate's field. A year of two digits lies between 1950 and 2049. -/
def ofField (type : Nat) (bs : List UInt8) : Time :=
  if type = 23 then
    let century := if bs.head?.any (· < 0x35) then [0x32, 0x30] else [0x31, 0x39]
    ⟨century ++ bs.take 12⟩
  else
    ⟨bs.take 14⟩

/-- A field that holds a time. -/
def read : Reader Time := fun bs =>
  (oneOf [23, 24] bs).refine fun (type, bs) => some (ofField type bs)

end Time

/-- When a certificate is valid. -/
structure Validity where
  notBefore : Time
  notAfter : Time
  deriving DecidableEq

/-- A certificate. `altNames` is missing if there is not exactly one extension with alternative
names, or if it is malformed. -/
structure Certificate where
  encoding : List UInt8
  issuer : Name
  validity : Validity
  subject : Name
  altNames : Option (List GeneralName)
  deriving DecidableEq

namespace Certificate

/-- An algorithm identifier, of which nothing is kept. -/
def algorithm : Reader Unit :=
  sequence .sequence fun s => do
    let (_, s) ← s.required objectId
    let (_, s) ← s.last anything
    return ((), s)

/-- The validity. -/
def validityPart : Reader Validity :=
  sequence .sequence fun s => do
    let (notBefore, s) ← s.required Time.read
    let (notAfter, s) ← s.required Time.read
    return (⟨notBefore, notAfter⟩, s)

/-- A public key, of which nothing is kept. -/
def publicKey : Reader Unit :=
  sequence .sequence fun s => do
    let (_, s) ← s.required algorithm
    let (_, s) ← s.required (universal 3)
    return ((), s)

/-- An extension: its identifier and content. -/
def extension : Reader (Oid × List UInt8) :=
  sequence .sequence fun s => do
    let (oid, s) ← s.required objectId
    let (_, s) ← s.optional (universal 1)
    let (content, s) ← s.required (universal 4)
    return ((oid, content), s)

/-- The identifier of the extension with alternative names. -/
def altNamesOid : Oid := ⟨[2, 5, 29, 17]⟩

/-- The alternative names of a certificate's extensions. -/
def altNamesOf (extensions : List (Oid × List UInt8)) : Option (List GeneralName) :=
  match extensions.filter (·.1 = altNamesOid) with
  | [(_, content)] => GeneralName.decodeAll? content
  | _ => none

/-- The signed part of a certificate whose encoding is at hand. -/
def signedPart (encoding : List UInt8) : Reader Certificate :=
  sequence .sequence fun s => do
    let (_, s) ← s.optional (explicit (.context 0) (universal 2))
    let (_, s) ← s.required (universal 2)
    let (_, s) ← s.required algorithm
    let (issuer, s) ← s.required Name.read
    let (validity, s) ← s.required validityPart
    let (subject, s) ← s.required Name.read
    let (_, s) ← s.required publicKey
    let (_, s) ← s.optional (octets (.context 1) 3)
    let (_, s) ← s.optional (octets (.context 2) 3)
    let (extensions, s) ← s.last (explicit (.context 3) (manyOf .sequence extension))
    return (⟨encoding, issuer, validity, subject, altNamesOf (extensions.getD [])⟩, s)

/-- A certificate: the signed part, the signature's algorithm, the signature. -/
def read : Reader Certificate := fun bs =>
  let part := sequence .sequence fun s => do
    let (c, s) ← s.required (signedPart [])
    let (_, s) ← s.required algorithm
    let (_, s) ← s.required (universal 3)
    return (c, s)
  match part bs with
  | .found c rest => .found { c with encoding := bs.take (bs.length - rest.length) } rest
  | o => o

/-- The certificate in front of some bytes. -/
def decode? (bs : List UInt8) : Option Certificate := (read bs).get?.map (·.1)

end Certificate

end SecureStream
