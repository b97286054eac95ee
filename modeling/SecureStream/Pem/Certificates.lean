import SecureStream.Certificate
import SecureStream.Pem.Block

/-!
# Certificates of a PEM text

* `Block.isCertificate`: the block's label says that it holds a certificate;
* `Block.certificate`: that certificate, or what is wrong with the block;
* `certificates`: all certificates of a text, unless some block is malformed;
* `firstCertificate`: the first one.
-/

namespace SecureStream.Pem

namespace Block

/-- The labels of certificates. -/
def certificateLabels : List (List UInt8) := [ascii "CERTIFICATE", ascii "X509 CERTIFICATE"]

/-- The block's label says that it holds a certificate. -/
def isCertificate (b : Block) : Bool := certificateLabels.contains b.label

/-- What is wrong with a header, if anything. The only header that a block may have says that the
body is encrypted, and no key is at hand. -/
def headerFault? (header : List UInt8) : Option LibraryErrors :=
  let kind := ascii "Proc-Type:"
  if header = [] then none
  else if kind.isPrefixOf header then
    let rest := (header.drop kind.length).dropWhile fun b => b = 0x20 || b = 0x09
    if (ascii "4,").isPrefixOf rest then some .nonempty else some .empty
  else some .nonempty

/-- The certificate of a block. -/
def certificate (b : Block) : Except LibraryErrors Certificate :=
  match headerFault? b.header with
  | some errors => .error errors
  | none =>
    match Certificate.decode? b.body with
    | some c => .ok c
    | none => .error .nonempty

end Block

/-- The certificates among some items. -/
def certificatesOf : List Item → Except LibraryErrors (List Certificate)
  | [] => .ok []
  | .broken errors :: _ => .error errors
  | .block b :: rest =>
    if b.isCertificate then do
      let c ← b.certificate
      return c :: (← certificatesOf rest)
    else
      certificatesOf rest

/-- All certificates of a text, in order and with repeats, unless some block is malformed. -/
def certificates (text : List UInt8) : Except LibraryErrors (List Certificate) :=
  certificatesOf (items text)

/-- The first certificate among some items. -/
def firstOf : List Item → Except LibraryErrors Certificate
  | [] => .error .nonempty
  | .broken errors :: _ => .error errors
  | .block b :: rest => if b.isCertificate then b.certificate else firstOf rest

/-- The first certificate of a text. -/
def firstCertificate (text : List UInt8) : Except LibraryErrors Certificate := firstOf (items text)

end SecureStream.Pem
