import SecureStream.Pem.Certificates
import SecureStream.SetupError

/-!
# Trust stores

The certificates that a chain may end in.

* `TrustStore`: a file's certificates, of which there is at least one;
* `TrustStore.ofFile`: the store of a file that has been read, all of it or nothing;
* `TrustStore.anchors`: its certificates without repeats.
-/

namespace SecureStream

/-- The certificates of a file, in file order and with repeats. -/
structure TrustStore where
  path : String
  certificates : List Certificate
  certificates_ne_nil : certificates ≠ []

namespace TrustStore

/-- The store of a file, given its content or the reason why it cannot be read. A store is never
empty and never holds only a part of the file. -/
def ofFile (path : String) (content : Except SystemError (List UInt8)) :
    Except SetupError TrustStore :=
  match content with
  | .error e => .error (.trustStore path e.message)
  | .ok text =>
    match Pem.certificates text with
    | .error errors => .error (.trustStore path errors.message)
    | .ok [] => .error (.trustStore path "no certificates found")
    | .ok (c :: cs) => .ok ⟨path, c :: cs, List.cons_ne_nil c cs⟩

/-- A store is made of all the certificates of its file. -/
theorem ofFile_eq_ok_iff {path : String} {content : Except SystemError (List UInt8)}
    {t : TrustStore} : ofFile path content = .ok t ↔
      t.path = path ∧ ∃ text, content = .ok text ∧ Pem.certificates text = .ok t.certificates := by
  obtain ⟨p, cs, hcs⟩ := t
  cases content with
  | error e => simp [ofFile]
  | ok text =>
    simp only [ofFile, Except.ok.injEq, exists_eq_left']
    cases Pem.certificates text with
    | error errors => simp
    | ok found =>
      cases found with
      | nil => simp [hcs.symm]
      | cons c found => simp [eq_comm]

/-- The number of certificates, repeats included. -/
def size (t : TrustStore) : Nat := t.certificates.length

/-- The certificates without repeats, the first of equal ones kept. -/
def anchors (t : TrustStore) : List Certificate := t.certificates.eraseDups

end TrustStore

end SecureStream
