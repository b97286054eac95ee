import SecureStream.Proofs.Verdicts

/-!
# What the verifier rules

A verifier is asked one thing after the other: it is told of findings, or called by the TLS library.
Its verdicts have no memory, and its findings only add up.

* `Query`, `Query.flags`: what may be asked of a verifier, and what that says is wrong;
* `Verifier.consult`: queries in order, with the ruling on each;
* `Verifier.answer_eq`: all that the answer to a query depends on;
* `Verifier.ruling_eq`: the rulings on any number of queries;
* `Policy.Allows`, `Policy.toleratedCodes`: the calls that a policy lets pass, and their codes;
* **`Verifier.impartial`**: each call is judged by itself.
-/

namespace SecureStream

/-! ## Queries and rulings -/

/-- What may be asked of a verifier: to take in findings, or to answer a call of the library. -/
inductive Query
  | record (status : CertStatus)
  | check (call : Callback)

namespace Query

/-- What a query says is wrong. -/
def flags : Query → CertStatus
  | record status => status
  | check call => found [call]

theorem flags_of_failed {call : Callback} (h : call.passed = false) :
    (check call).flags = .ofCode call.code :=
  found_singleton_of_failed h

theorem flags_of_passed {call : Callback} (h : call.passed = true) : (check call).flags = ∅ :=
  found_cons_of_passed h []

/-- It is the leaf's turn, and there is no leaf. -/
def LacksLeaf : Query → Prop
  | record _ => False
  | check call => call.passed = true ∧ call.depth = 0 ∧ call.hasLeaf = false

instance : (q : Query) → Decidable q.LacksLeaf
  | record _ => inferInstanceAs (Decidable False)
  | check call =>
    inferInstanceAs (Decidable (call.passed = true ∧ call.depth = 0 ∧ call.hasLeaf = false))

theorem flags_of_lacksLeaf {q : Query} (h : q.LacksLeaf) : q.flags = ∅ := by
  cases q with
  | record status => exact h.elim
  | check call => exact flags_of_passed h.1

theorem not_lacksLeaf_of_mem {f : Flag} {q : Query} (h : f ∈ q.flags) : ¬ q.LacksLeaf :=
  fun hleaf => CertStatus.not_mem_empty f (flags_of_lacksLeaf hleaf ▸ h)

end Query

/-- What some queries say together. -/
def findings (queries : List Query) : CertStatus := (queries.map Query.flags).foldr (· ∪ ·) ∅

@[simp] theorem findings_nil : findings [] = ∅ := rfl

@[simp] theorem findings_cons (q : Query) (queries : List Query) :
    findings (q :: queries) = q.flags ∪ findings queries := rfl

theorem mem_findings {f : Flag} {queries : List Query} :
    f ∈ findings queries ↔ ∃ q ∈ queries, f ∈ q.flags := by
  induction queries with
  | nil => simp
  | cons q queries ih => simp [ih]

theorem findings_map_check (calls : List Callback) : findings (calls.map .check) = found calls := by
  induction calls with
  | nil => rfl
  | cons call calls ih =>
    rw [List.map_cons, findings_cons, ih, ← List.singleton_append, found_append]
    rfl

/-- A query with the answer to it. -/
structure Ruling where
  query : Query
  verdict : Verdict
  lines : List LogLine

namespace Verifier

/-- Answer one query. -/
def answer (v : Verifier) : Query → Verdict × List LogLine × Verifier
  | .record status => v.record status
  | .check call => v.check call

/-- Answer queries in order. -/
def consult (v : Verifier) : List Query → List Ruling × Verifier
  | [] => ([], v)
  | q :: queries =>
    let (verdict, lines, v') := v.answer q
    let (rulings, v'') := consult v' queries
    (⟨q, verdict, lines⟩ :: rulings, v'')

/-- The calls of a handshake are answered like other queries. -/
theorem observe_eq_consult (v : Verifier) (calls : List Callback) :
    v.observe calls = ((v.consult (calls.map .check)).1.flatMap Ruling.lines,
      (v.consult (calls.map .check)).2) := by
  induction calls generalizing v with
  | nil => rfl
  | cons call calls ih =>
    simp only [observe, List.map_cons, consult, answer, List.flatMap_cons, ih]

/-! ## One query -/

/-- The error that a query causes, if there is one. -/
def complaint (v : Verifier) (q : Query) : Option LogLine :=
  if q.LacksLeaf then some (.error "No certificate was found!") else v.objection q.flags

/-- The ruling on a query if some findings are known already. -/
def ruling (v : Verifier) (known : CertStatus) (q : Query) : Ruling where
  query := q
  verdict := if (v.complaint q).isSome then .reject else .proceed
  lines := warnings (q.flags \ known) ++ (v.complaint q).toList

theorem objection_empty (v : Verifier) : v.objection ∅ = none :=
  (v.objection_eq_none_iff ∅).mpr rfl

theorem warnings_eq_nil {s : CertStatus} (h : ∀ f, f ∉ s) : warnings s = [] := by
  have hnone : s.toList = [] :=
    List.eq_nil_iff_forall_not_mem.mpr fun f hf => h f (CertStatus.mem_toList.mp hf)
  rw [warnings, hnone]
  rfl

theorem complaint_of_failed {call : Callback} (h : call.passed = false) (v : Verifier) :
    v.complaint (.check call) = v.objection (.ofCode call.code) := by
  have hleaf : ¬ (Query.check call).LacksLeaf := fun hlacks => nomatch h.symm.trans hlacks.1
  rw [complaint, if_neg hleaf, Query.flags_of_failed h]

theorem complaint_of_passed {call : Callback} (h : call.passed = true) (v : Verifier) :
    v.complaint (.check call) =
      if call.depth = 0 ∧ ¬ call.hasLeaf then some (.error "No certificate was found!")
      else none := by
  have hleaf : (Query.check call).LacksLeaf ↔ call.depth = 0 ∧ ¬ call.hasLeaf := by
    simp [Query.LacksLeaf, h]
  rw [complaint, Query.flags_of_passed h, objection_empty]
  simp only [hleaf]

theorem record_eq (v : Verifier) (status : CertStatus) :
    v.record status = (if (v.objection status).isSome then .reject else .proceed,
      warnings (status \ v.status) ++ (v.objection status).toList,
      { v with status := v.status ∪ status }) := by
  unfold record
  cases v.objection status with
  | none => simp
  | some line => rfl

/-- **An answer depends on the query alone**, but for the warnings, which leave out what is known
already. -/
theorem answer_eq (v : Verifier) (q : Query) :
    v.answer q = ((v.ruling v.status q).verdict, (v.ruling v.status q).lines,
      { v with status := v.status ∪ q.flags }) := by
  cases q with
  | record status => exact v.record_eq status
  | check call =>
    cases hpassed : call.passed with
    | false =>
      rw [ruling, complaint_of_failed hpassed, Query.flags_of_failed hpassed, answer, check,
        if_neg (by simp [hpassed])]
      exact v.record_eq _
    | true =>
      have hwarnings : warnings (∅ \ v.status) = [] := warnings_eq_nil (by simp)
      rw [ruling, complaint_of_passed hpassed, Query.flags_of_passed hpassed, hwarnings,
        CertStatus.union_empty, answer, check, if_pos hpassed]
      split <;> rfl

/-! ## All queries -/

theorem consult_cons (v : Verifier) (q : Query) (queries : List Query) :
    v.consult (q :: queries) =
      (v.ruling v.status q :: ({ v with status := v.status ∪ q.flags }.consult queries).1,
        ({ v with status := v.status ∪ q.flags }.consult queries).2) := by
  rw [consult, v.answer_eq q]
  rfl

/-- Every query has a ruling. -/
theorem map_query_consult (v : Verifier) (queries : List Query) :
    (v.consult queries).1.map Ruling.query = queries := by
  induction queries generalizing v with
  | nil => rfl
  | cons q queries ih =>
    rw [consult_cons, List.map_cons, ih]
    rfl

/-- After some queries, the verifier knows what they say, and nothing else has changed. -/
theorem consult_snd (v : Verifier) (queries : List Query) :
    (v.consult queries).2 = { v with status := v.status ∪ findings queries } := by
  induction queries generalizing v with
  | nil => simp [consult]
  | cons q queries ih => rw [consult_cons, ih, findings_cons, CertStatus.union_assoc]

/-- **The ruling on each of some queries**: what is known then is what the queries before said. -/
theorem ruling_eq {v : Verifier} {queries : List Query} {before after : List Ruling} {x : Ruling}
    (h : (v.consult queries).1 = before ++ x :: after) :
    x = v.ruling (v.status ∪ findings (before.map Ruling.query)) x.query := by
  -- Over the queries: what the first one says is known to the verifier that answers the rest.
  induction queries generalizing v before with
  | nil => exact absurd h.symm (List.append_ne_nil_of_right_ne_nil _ (List.cons_ne_nil _ _))
  | cons q queries ih =>
    rw [consult_cons] at h
    dsimp only at h
    cases before with
    | nil =>
      obtain ⟨rfl, -⟩ := List.cons.inj h
      rw [List.map_nil, findings_nil, CertStatus.union_empty]
      rfl
    | cons y before =>
      obtain ⟨rfl, htail⟩ := List.cons.inj h
      have hx := ih htail
      rw [List.map_cons, findings_cons, ← CertStatus.union_assoc]
      exact hx

theorem exists_ruling_eq {v : Verifier} {queries : List Query} {x : Ruling}
    (h : x ∈ (v.consult queries).1) : ∃ known, x = v.ruling known x.query := by
  obtain ⟨before, after, h⟩ := List.append_of_mem h
  exact ⟨_, ruling_eq h⟩

theorem verdict_eq {v : Verifier} {queries : List Query} {x : Ruling}
    (h : x ∈ (v.consult queries).1) :
    x.verdict = if (v.complaint x.query).isSome then .reject else .proceed := by
  obtain ⟨known, hx⟩ := exists_ruling_eq h
  rw [hx]
  rfl

end Verifier

/-! ## Calls of the library -/

namespace Policy

/-- The policy lets a call pass. If a check has failed, only the code counts; if it has passed, only
that the leaf is there when its turn comes. -/
def Allows (policy : Policy) (call : Callback) : Prop :=
  if call.passed then call.depth = 0 → call.hasLeaf = true
  else (CertStatus.ofCode call.code).meets policy.fatal = false

instance (policy : Policy) (call : Callback) : Decidable (policy.Allows call) :=
  inferInstanceAs (Decidable (ite _ _ _))

/-- The codes of failed checks that the policy tolerates. -/
def toleratedCodes : Policy → List Int
  | lenient => [0, 9, 10, 23]
  | strict => [0]

theorem meets_fatal_iff (policy : Policy) (code : Int) :
    (CertStatus.ofCode code).meets policy.fatal = false ↔ code ∈ policy.toleratedCodes := by
  unfold CertStatus.ofCode
  cases policy <;> split <;> simp_all [toleratedCodes] <;> decide

theorem allows_of_failed {call : Callback} (h : call.passed = false) (policy : Policy) :
    policy.Allows call ↔ call.code ∈ policy.toleratedCodes := by
  rw [Allows, if_neg (by simp [h]), meets_fatal_iff]

theorem allows_of_passed {call : Callback} (h : call.passed = true) (policy : Policy) :
    policy.Allows call ↔ (call.depth = 0 → call.hasLeaf = true) := by
  rw [Allows, if_pos h]

end Policy

namespace Verifier

/-- A call causes an error unless the policy lets it pass. -/
theorem complaint_check (v : Verifier) (call : Callback) :
    v.complaint (.check call) = none ↔ v.policy.Allows call := by
  cases hpassed : call.passed with
  | false =>
    rw [complaint_of_failed hpassed, objection_eq_none_iff, Policy.Allows,
      if_neg (by simp [hpassed])]
  | true => simp [complaint_of_passed hpassed, Policy.allows_of_passed hpassed]

theorem ruling_verdict (v : Verifier) (known : CertStatus) (call : Callback) :
    (v.ruling known (.check call)).verdict =
      if v.policy.Allows call then .proceed else .reject := by
  by_cases hallows : v.policy.Allows call
  · rw [ruling, if_pos hallows, (v.complaint_check call).mpr hallows]
    rfl
  · have hsome : (v.complaint (.check call)).isSome = true :=
      Option.isSome_iff_ne_none.mpr (mt (v.complaint_check call).mp hallows)
    rw [ruling, if_neg hallows]
    exact if_pos hsome

theorem map_verdict_consult (v : Verifier) (calls : List Callback) :
    (v.consult (calls.map .check)).1.map (fun x => (x.query, x.verdict)) =
      calls.map fun call => (.check call, if v.policy.Allows call then .proceed else .reject) := by
  induction calls generalizing v with
  | nil => rfl
  | cons call calls ih =>
    rw [List.map_cons, consult_cons, List.map_cons, List.map_cons, ruling_verdict, ih]
    rfl

/-- What makes a verifier judge each of some calls by itself, and do no more with what it is told
than add it up. -/
structure Impartial (v : Verifier) (calls : List Callback) : Prop where
  /-- Each call is answered as the policy has it, whatever the calls before it were. -/
  verdicts : (v.consult (calls.map .check)).1.map (fun x => (x.query, x.verdict)) =
    calls.map fun call => (.check call, if v.policy.Allows call then .proceed else .reject)
  /-- A failed check is let pass for its code alone. -/
  failed : ∀ call ∈ calls, call.passed = false →
    (v.policy.Allows call ↔ (CertStatus.ofCode call.code).meets v.policy.fatal = false) ∧
      (v.policy.Allows call ↔ call.code ∈ v.policy.toleratedCodes)
  /-- A passed check is let pass unless it is the leaf's and there is no leaf. -/
  passed : ∀ call ∈ calls, call.passed = true →
    (v.policy.Allows call ↔ ¬ (call.depth = 0 ∧ call.hasLeaf = false))
  /-- The status afterwards has what it had and what the failed checks say, let pass or not. -/
  accumulates : ∀ f, f ∈ (v.consult (calls.map .check)).2.status ↔
    f ∈ v.status ∨ ∃ call ∈ calls, call.passed = false ∧ f ∈ CertStatus.ofCode call.code
  /-- No call takes anything out of the status. -/
  grows : ∀ before after, calls = before ++ after →
    (v.consult (before.map .check)).2.status ⊆ (v.consult (calls.map .check)).2.status
  /-- A passed check leaves the verifier as it is at that point. -/
  still : ∀ before call after, calls = before ++ call :: after → call.passed = true →
    (v.consult ((before ++ [call]).map .check)).2 = (v.consult (before.map .check)).2
  /-- A handshake that makes the calls logs the lines of the answers and keeps that verifier. -/
  observed : v.observe calls =
    ((v.consult (calls.map .check)).1.flatMap Ruling.lines, (v.consult (calls.map .check)).2)

/-- **A verifier judges each call by itself.** -/
theorem impartial (v : Verifier) (calls : List Callback) : v.Impartial calls := by
  have hafter : ∀ calls : List Callback,
      (v.consult (calls.map .check)).2 = { v with status := v.status ∪ found calls } :=
    fun calls => by rw [consult_snd, findings_map_check]
  constructor
  case verdicts => exact v.map_verdict_consult calls
  case failed =>
    intro call _ hfailed
    have hcode := Policy.allows_of_failed hfailed v.policy
    exact ⟨hcode.trans (v.policy.meets_fatal_iff call.code).symm, hcode⟩
  case passed =>
    intro call _ hpassed
    rw [Policy.allows_of_passed hpassed, not_and, Bool.not_eq_false]
  case accumulates =>
    intro f
    rw [hafter, CertStatus.mem_union, mem_found]
  case grows =>
    rintro before after rfl
    rw [hafter, hafter, found_append]
    exact CertStatus.subset_iff.mpr fun f hf => by
      rw [← CertStatus.union_assoc]
      exact CertStatus.mem_union.mpr (.inl hf)
  case still =>
    rintro before call after rfl hpassed
    rw [hafter, hafter, found_append, found_cons_of_passed hpassed, found_nil,
      CertStatus.union_empty]
  case observed => exact v.observe_eq_consult calls

end Verifier

end SecureStream
