/-!
# Certificate status

What was found wrong with a peer's certificate, as a set of flags.

* `Flag`: the six findings, in the order in which they are printed;
* `CertStatus`: a set of flags, with `∅`, `∪`, `\`, `⊆`, and `meets` for a shared flag;
* `CertStatus.ofCode`: the flags of a verification error code;
* `CertStatus.text`, `CertStatus.bits`: the two written forms.
-/

namespace SecureStream

/-- One finding about a certificate chain. -/
inductive Flag
  /-- The issuer of some certificate is not among the trust anchors. -/
  | signerNotFound
  /-- Some certificate has been revoked. -/
  | revoked
  /-- Some certificate has expired. -/
  | expired
  /-- Some certificate is not valid yet. -/
  | notActivated
  /-- The chain is not trusted. -/
  | invalid
  /-- The leaf does not cover the requested server name. -/
  | hostnameMismatch
  deriving DecidableEq

namespace Flag

/-- Every flag, in printing order. -/
def all : List Flag :=
  [signerNotFound, revoked, expired, notActivated, invalid, hostnameMismatch]

theorem mem_all (f : Flag) : f ∈ all := by cases f <;> decide

/-- The written form of a flag. -/
def text : Flag → String
  | signerNotFound => "signer-not-found"
  | revoked => "revoked"
  | expired => "expired"
  | notActivated => "not-activated"
  | invalid => "invalid"
  | hostnameMismatch => "hostname-mismatch"

/-- The bit that stands for a flag: the powers of two in printing order. -/
def bit : Flag → Nat
  | signerNotFound => 1
  | revoked => 2
  | expired => 4
  | notActivated => 8
  | invalid => 16
  | hostnameMismatch => 32

end Flag

/-- A set of flags. -/
structure CertStatus where
  holds : Flag → Bool

namespace CertStatus

@[ext] theorem ext {s t : CertStatus} (h : ∀ f, s.holds f = t.holds f) : s = t := by
  cases s; cases t; congr; exact funext h

instance : DecidableEq CertStatus := fun s t =>
  if h : ∀ f ∈ Flag.all, s.holds f = t.holds f then
    .isTrue (ext fun f => h f f.mem_all)
  else
    .isFalse fun e => h fun _ _ => e ▸ rfl

/-- The flag is set. -/
instance : Membership Flag CertStatus := ⟨fun s f => s.holds f = true⟩

instance (f : Flag) (s : CertStatus) : Decidable (f ∈ s) :=
  inferInstanceAs (Decidable (s.holds f = true))

theorem mem_def {f : Flag} {s : CertStatus} : f ∈ s ↔ s.holds f = true := Iff.rfl

/-- The status of a chain with nothing wrong. -/
instance : EmptyCollection CertStatus := ⟨⟨fun _ => false⟩⟩

/-- The flags of either status. -/
instance : Union CertStatus := ⟨fun s t => ⟨fun f => s.holds f || t.holds f⟩⟩

/-- The flags of the first status that the second does not have. -/
instance : SDiff CertStatus := ⟨fun s t => ⟨fun f => s.holds f && !t.holds f⟩⟩

/-- Every flag of the first status is in the second. -/
instance : HasSubset CertStatus := ⟨fun s t => ∀ f ∈ Flag.all, f ∈ s → f ∈ t⟩

instance (s t : CertStatus) : Decidable (s ⊆ t) :=
  inferInstanceAs (Decidable (∀ f ∈ Flag.all, f ∈ s → f ∈ t))

@[simp] theorem not_mem_empty (f : Flag) : f ∉ (∅ : CertStatus) := Bool.false_ne_true

@[simp] theorem mem_union {f : Flag} {s t : CertStatus} : f ∈ s ∪ t ↔ f ∈ s ∨ f ∈ t :=
  Bool.or_eq_true _ _ ▸ Iff.rfl

@[simp] theorem mem_sdiff {f : Flag} {s t : CertStatus} : f ∈ s \ t ↔ f ∈ s ∧ f ∉ t := by
  change (s.holds f && !t.holds f) = true ↔ s.holds f = true ∧ ¬ t.holds f = true
  cases s.holds f <;> cases t.holds f <;> decide

theorem subset_iff {s t : CertStatus} : s ⊆ t ↔ ∀ f, f ∈ s → f ∈ t :=
  ⟨fun h f => h f f.mem_all, fun h f _ => h f⟩

/-- The two statuses share a flag. -/
def meets (s t : CertStatus) : Bool := Flag.all.any fun f => s.holds f && t.holds f

theorem meets_iff {s t : CertStatus} : s.meets t = true ↔ ∃ f, f ∈ s ∧ f ∈ t := by
  simp only [meets, List.any_eq_true, Bool.and_eq_true]
  exact ⟨fun ⟨f, _, h⟩ => ⟨f, h⟩, fun ⟨f, h⟩ => ⟨f, f.mem_all, h⟩⟩

/-- The status with exactly the listed flags. -/
def ofList (fs : List Flag) : CertStatus := ⟨fun f => fs.contains f⟩

@[simp] theorem mem_ofList {f : Flag} {fs : List Flag} : f ∈ ofList fs ↔ f ∈ fs := by
  simp [ofList, mem_def]

/-- The flags of a status, in printing order. -/
def toList (s : CertStatus) : List Flag := Flag.all.filter s.holds

@[simp] theorem mem_toList {f : Flag} {s : CertStatus} : f ∈ s.toList ↔ f ∈ s := by
  simp [toList, f.mem_all, mem_def]

/-- Nothing is wrong. -/
def isEmpty (s : CertStatus) : Bool := s.toList.isEmpty

/-- The number whose binary digits are the flags. -/
def bits (s : CertStatus) : Nat := s.toList.foldr (fun f n => f.bit + n) 0

/-- The written form: `ok`, or the set flags in printing order, joined by a bar. -/
def text (s : CertStatus) : String :=
  if s.isEmpty then "ok" else "|".intercalate (s.toList.map Flag.text)

/-- The flags that the lenient policy does not reject by themselves. -/
def warnings : CertStatus := ofList [.signerNotFound, .revoked, .expired, .notActivated]

/-- The flags of a verification error code. A missing or self-signed issuer is both an unknown
signer and an untrusted chain; a code without a meaning of its own is an untrusted chain. -/
def ofCode (code : Int) : CertStatus :=
  match code with
  | 0 => ∅
  | 2 | 18 | 19 | 20 | 21 => ofList [.signerNotFound, .invalid]
  | 23 => ofList [.revoked]
  | 10 => ofList [.expired]
  | 9 => ofList [.notActivated]
  | 62 | 64 => ofList [.hostnameMismatch]
  | _ => ofList [.invalid]

end CertStatus

end SecureStream
