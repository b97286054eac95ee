import SecureStream.Environment
import SecureStream.Peer.Network.Patience

/-!
# What the verifier finds and lets pass

The TLS library makes calls of the verifier, which collects what the failed ones say.

* `found`: what the failed ones of some calls say;
* `Verifier.observe_eq`: after some calls, the verifier knows that too, and nothing else;
* **`Verifier.not_meets_of_heed`**: if no call is refused, the policy has nothing against what the
  calls say;
* `Policy.eq_empty_of_strict`, `Policy.subset_of_lenient`: what that leaves;
* `Environment.Heeds`, `Network.heeds`: a library that gives up at the first refusal.
-/

namespace SecureStream

/-! ## What calls say -/

/-- What the failed ones of some calls say. -/
def found (calls : List Callback) : CertStatus :=
  ((calls.filter fun call => !call.passed).map fun call => CertStatus.ofCode call.code).foldr
    (· ∪ ·) ∅

@[simp] theorem found_nil : found [] = ∅ := rfl

theorem found_cons_of_passed {call : Callback} (h : call.passed = true) (calls : List Callback) :
    found (call :: calls) = found calls := by
  rw [found, List.filter_cons_of_neg (by simp [h]), found]

theorem found_cons_of_failed {call : Callback} (h : call.passed = false) (calls : List Callback) :
    found (call :: calls) = .ofCode call.code ∪ found calls := by
  rw [found, List.filter_cons_of_pos (by simp [h]), List.map_cons, List.foldr_cons, found]

theorem mem_found {f : Flag} {calls : List Callback} :
    f ∈ found calls ↔ ∃ call ∈ calls, call.passed = false ∧ f ∈ CertStatus.ofCode call.code := by
  induction calls with
  | nil => simp
  | cons call calls ih =>
    simp only [List.mem_cons, exists_eq_or_imp, ← ih]
    cases h : call.passed with
    | true => simp [found_cons_of_passed h]
    | false => simp [found_cons_of_failed h]

namespace CertStatus

theorem ext_mem {s t : CertStatus} (h : ∀ f, f ∈ s ↔ f ∈ t) : s = t :=
  ext fun f => Bool.eq_iff_iff.mpr (h f)

@[simp] theorem empty_union (s : CertStatus) : ∅ ∪ s = s := ext_mem (by simp)

@[simp] theorem union_empty (s : CertStatus) : s ∪ ∅ = s := ext_mem (by simp)

theorem union_meets (s t u : CertStatus) : (s ∪ t).meets u = (s.meets u || t.meets u) := by
  refine Bool.eq_iff_iff.mpr ?_
  simp only [meets_iff, Bool.or_eq_true, mem_union, or_and_right, exists_or]

theorem union_assoc (s t u : CertStatus) : s ∪ t ∪ u = s ∪ (t ∪ u) :=
  ext_mem (by simp [or_assoc])

/-- An unknown signer never comes alone: the chain is not trusted either. -/
theorem invalid_mem_ofCode {code : Int} (h : .signerNotFound ∈ ofCode code) :
    .invalid ∈ ofCode code := by
  unfold ofCode at h ⊢
  split at h <;> simp_all

theorem invalid_mem_found {calls : List Callback} (h : .signerNotFound ∈ found calls) :
    .invalid ∈ found calls := by
  obtain ⟨call, hmem, hfailed, hcode⟩ := mem_found.mp h
  exact mem_found.mpr ⟨call, hmem, hfailed, invalid_mem_ofCode hcode⟩

end CertStatus

/-- What the calls of two lists say together. -/
theorem found_append (calls calls' : List Callback) :
    found (calls ++ calls') = found calls ∪ found calls' := by
  refine CertStatus.ext_mem fun f => ?_
  simp only [mem_found, CertStatus.mem_union, List.mem_append, or_and_right, exists_or]

theorem found_singleton_of_failed {call : Callback} (h : call.passed = false) :
    found [call] = .ofCode call.code := by
  rw [found_cons_of_failed h, found_nil, CertStatus.union_empty]

/-! ## What the policies leave -/

namespace Policy

/-- A status without a flag that is fatal under the strict policy has no flag. -/
theorem eq_empty_of_strict {s : CertStatus} (h : s.meets strict.fatal = false) : s = ∅ := by
  refine CertStatus.ext_mem fun f =>
    ⟨fun hf => ?_, fun hf => absurd hf (CertStatus.not_mem_empty f)⟩
  have hmeets : s.meets strict.fatal = true :=
    CertStatus.meets_iff.mpr ⟨f, hf, CertStatus.mem_ofList.mpr f.mem_all⟩
  rw [h] at hmeets
  exact nomatch hmeets

/-- An untrusted chain and a foreign host name are fatal under every policy. -/
theorem mem_fatal (policy : Policy) :
    .invalid ∈ policy.fatal ∧ .hostnameMismatch ∈ policy.fatal := by
  cases policy <;> decide

/-- The findings that may pass under the lenient policy. -/
def tolerated : CertStatus := .ofList [.revoked, .expired, .notActivated]

/-- What calls say without a flag that is fatal under the lenient policy is tolerated. An unknown
signer is not, as it comes with an untrusted chain. -/
theorem subset_of_lenient {calls : List Callback}
    (h : (found calls).meets lenient.fatal = false) : found calls ⊆ tolerated := by
  have hnot : ∀ f ∈ found calls, f ∉ lenient.fatal := by
    intro f hf hfatal
    have hmeets := CertStatus.meets_iff.mpr ⟨f, hf, hfatal⟩
    rw [h] at hmeets
    exact nomatch hmeets
  refine CertStatus.subset_iff.mpr fun f hf => ?_
  cases f with
  | signerNotFound =>
    exact absurd (CertStatus.mem_ofList.mpr (by decide)) (hnot _ (CertStatus.invalid_mem_found hf))
  | invalid | hostnameMismatch => exact absurd (CertStatus.mem_ofList.mpr (by decide)) (hnot _ hf)
  | revoked | expired | notActivated => exact CertStatus.mem_ofList.mpr (by decide)

end Policy

/-! ## The verifier -/

namespace Verifier

variable {v : Verifier} {call : Callback} {calls : List Callback}

/-- A call adds what it says to the status if it has failed, and changes nothing else. -/
theorem check_eq (v : Verifier) (call : Callback) :
    (v.check call).2.2 = { v with status := v.status ∪ found [call] } := by
  unfold check
  cases h : call.passed with
  | true =>
    rw [if_pos rfl, found_cons_of_passed h]
    split <;> simp
  | false =>
    rw [if_neg Bool.false_ne_true, found_cons_of_failed h]
    unfold record
    dsimp only
    split <;> simp

/-- After some calls, the verifier knows what the failed ones of them say, and nothing else has
changed. -/
theorem observe_eq (v : Verifier) (calls : List Callback) :
    (v.observe calls).2 = { v with status := v.status ∪ found calls } := by
  induction calls generalizing v with
  | nil => simp [observe]
  | cons call calls ih =>
    change ((v.check call).2.2.observe calls).2 = _
    rw [ih, check_eq]
    simp [CertStatus.union_assoc, ← found_append]

/-- Whatever the policy has something against is objected to. -/
theorem not_meets_of_objection {status : CertStatus} (h : v.objection status = none) :
    status.meets v.policy.fatal = false := by
  unfold objection at h
  split at h
  · exact nomatch h
  · split at h
    · exact nomatch h
    · split at h
      · exact nomatch h
      · next hmeets => exact eq_false_of_ne_true hmeets

theorem objection_eq_none_iff (v : Verifier) (status : CertStatus) :
    v.objection status = none ↔ status.meets v.policy.fatal = false := by
  refine ⟨not_meets_of_objection, fun h => ?_⟩
  have hnot : ∀ f ∈ v.policy.fatal, f ∉ status := fun f hfatal hf =>
    ne_true_of_eq_false h (CertStatus.meets_iff.mpr ⟨f, hf, hfatal⟩)
  rw [objection, if_neg (hnot _ v.policy.mem_fatal.1), if_neg (hnot _ v.policy.mem_fatal.2), h,
    if_neg Bool.false_ne_true]

/-- The policy has nothing against what an accepted call says. -/
theorem not_meets_of_proceed (h : (v.check call).1 = .proceed) :
    (found [call]).meets v.policy.fatal = false := by
  cases hpassed : call.passed with
  | true =>
    rw [found_cons_of_passed hpassed]
    simp [CertStatus.meets]
  | false =>
    rw [found_singleton_of_failed hpassed]
    refine not_meets_of_objection ?_
    unfold check at h
    rw [if_neg (by simp [hpassed])] at h
    unfold record at h
    dsimp only at h
    split at h
    · cases h
    · next hnone => exact hnone

/-- **If no call is refused, the policy has nothing against what the calls say.** -/
theorem not_meets_of_heed (h : (v.heed calls).2 = true) :
    (found calls).meets v.policy.fatal = false := by
  induction calls generalizing v with
  | nil => simp [CertStatus.meets]
  | cons call calls ih =>
    unfold heed at h
    split at h
    · cases h
    · next v' hcheck =>
      have hv' : v' = { v with status := v.status ∪ found [call] } := by rw [← check_eq, hcheck]
      have hrest := ih h
      rw [hv'] at hrest
      rw [← List.singleton_append, found_append, CertStatus.union_meets,
        not_meets_of_proceed (by rw [hcheck]), hrest]
      rfl

/-- The calls up to the first refusal are all made. -/
theorem heed_heed (v : Verifier) (calls : List Callback) :
    v.heed (v.heed calls).1 = v.heed calls := by
  induction calls generalizing v with
  | nil => rfl
  | cons call calls ih =>
    cases hcheck : v.check call with
    | mk verdict rest =>
      cases verdict with
      | reject => simp [heed, hcheck]
      | proceed => simp [heed, hcheck, ih]

end Verifier

/-! ## Libraries that give up at the first refusal -/

/-- The attempt at a handshake makes no call after one that the verifier refuses, and has then
failed for good. -/
structure Tls.Attempt.Heeds (a : Tls.Attempt) (v : Verifier) : Prop where
  calls : (v.heed a.calls).1 = a.calls
  refused : (v.heed a.calls).2 = false → ∃ e, a.outcome = .error e ∧ e.isTransient = false

/-- Every attempt at a handshake heeds the verifier. -/
def Environment.Heeds {σ : Type} (E : Environment σ) : Prop :=
  ∀ s request v state, (E.answer (.handshake s request v) state).1.Heeds v

/-- An attempt without calls heeds every verifier. -/
theorem Tls.Attempt.Heeds.of_no_calls (outcome : Except Tls.Failure Tls.Negotiated) (v : Verifier) :
    Tls.Attempt.Heeds ⟨[], outcome⟩ v :=
  ⟨rfl, fun h => nomatch h⟩

namespace Peer.Network

theorem verify_heeds (request : Tls.Request) (v : Verifier) (leaf : Certificate)
    (version : Version) (suite : String) :
    (negotiate.verify request v leaf version suite).Heeds v := by
  constructor
  · exact congrArg Prod.fst (v.heed_heed _)
  · intro h
    have hrefused : (v.heed (Tls.verificationCalls Clock.now request leaf)).2 = false := by
      rw [← v.heed_heed]
      exact h
    refine ⟨refused, ?_, rfl⟩
    unfold negotiate.verify
    simp [hrefused]

theorem negotiate_heeds (n : Network) (request : Tls.Request) (v : Verifier) :
    (n.negotiate request v).Heeds v := by
  unfold negotiate
  split
  · exact verify_heeds request v _ _ _
  · split
    · exact verify_heeds request v _ _ _
    · exact .of_no_calls _ v
  · split <;> exact .of_no_calls _ v
  · exact .of_no_calls _ v

/-- The network's handshakes heed the verifier. -/
theorem heeds : environment.Heeds := by
  intro s request v n
  change (n.handshake request v).1.Heeds v
  unfold handshake
  split
  · exact .of_no_calls _ v
  · split
    · exact .of_no_calls _ v
    · next n _ =>
      split
      · exact .of_no_calls _ v
      · dsimp only
        split <;> exact n.negotiate_heeds request v

end Peer.Network

end SecureStream
