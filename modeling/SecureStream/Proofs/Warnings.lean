import SecureStream.Proofs.Rulings

/-!
# What the verifier logs

A verifier warns of a finding the first time it is told of it, and names one error each time it
rejects. What it has warned of before has no part in the errors, and the policy has none in the
warnings.

* `Ruling.warnings`, `Ruling.errors`: the two parts of what is logged for a query;
* `Complains`: what is wrong with a query, the first of four things;
* `announcements`, `Verifier.warnings_eq`: the four things that are warned of;
* `Verifier.mem_lines_iff`, `Verifier.warnings_eq_of_consult`: when a warning is logged;
* `Verifier.count_warn`: how often it is;
* **`Verifier.candid`**: warnings once, one error for each rejection.
-/

namespace SecureStream

/-- The warnings logged for a query. -/
def Ruling.warnings (x : Ruling) : List LogLine := x.lines.filter fun line => line.level = .warn

/-- The errors logged for a query. -/
def Ruling.errors (x : Ruling) : List LogLine := x.lines.filter fun line => line.level = .error

/-- What is wrong with a query, in the order in which it counts: there is no leaf, the chain is not
trusted, the host name is foreign, or the policy is strict. -/
inductive Complains (serverName : String) (policy : Policy) (q : Query) : LogLine → Prop
  | lacksLeaf : q.LacksLeaf →
      Complains serverName policy q (.error "No certificate was found!")
  | untrusted : .invalid ∈ q.flags →
      Complains serverName policy q (.error "The certificate is not trusted.")
  | foreign : .invalid ∉ q.flags → .hostnameMismatch ∈ q.flags →
      Complains serverName policy q
        (.error ("The certificate's owner does not match the hostname '" ++ serverName ++ "'"))
  | forbidden : .invalid ∉ q.flags → .hostnameMismatch ∉ q.flags → policy = .strict →
      q.flags ≠ ∅ →
      Complains serverName policy q
        (.error ("Certificate rejected by strict verification policy: " ++ q.flags.text))

/-- What is warned of, and in which words, in the order in which warnings are logged. -/
def announcements : List (Flag × String) :=
  [(.signerNotFound, "The certificate does not have a known issuer."),
    (.revoked, "The certificate has been revoked."),
    (.expired, "The certificate has expired."),
    (.notActivated, "The certificate is not yet activated.")]

namespace Verifier

/-! ## Warnings -/

/-- A flag is warned of with its announcement, if it has one. -/
theorem warning_eq_some_iff {f : Flag} {text : String} :
    warning f = some text ↔ (f, text) ∈ announcements := by
  simp only [announcements, List.mem_cons, Prod.mk.injEq, List.not_mem_nil, or_false]
  cases f <;> simp [warning, eq_comm]

/-- The warnings for a status are the announcements of its flags. -/
theorem warnings_eq (s : CertStatus) :
    warnings s = (announcements.filter fun a => a.1 ∈ s).map fun a => .warn a.2 := by
  have hall : announcements = Flag.all.filterMap fun f => (warning f).map (f, ·) := rfl
  rw [warnings, CertStatus.toList, hall, List.filterMap_filter, List.filter_filterMap,
    List.map_filterMap, List.map_filterMap]
  congr 1
  funext f
  cases warning f with
  | none => simp
  | some text => by_cases hf : s.holds f = true <;> simp [hf, CertStatus.mem_def, Option.filter]

theorem announcements_nodup : (announcements.map fun a => LogLine.warn a.2).Nodup := by decide

theorem warnings_nodup (s : CertStatus) : (warnings s).Nodup := by
  rw [warnings_eq]
  exact .sublist (List.filter_sublist.map _) announcements_nodup

theorem mem_warnings {f : Flag} {text : String} (h : (f, text) ∈ announcements) (s : CertStatus) :
    .warn text ∈ warnings s ↔ f ∈ s := by
  rw [warnings_eq, List.mem_map]
  constructor
  · rintro ⟨a, ha, hline⟩
    obtain ⟨hmem, hs⟩ := List.mem_filter.mp ha
    have hdistinct : ∀ a ∈ announcements, ∀ b ∈ announcements, a.2 = b.2 → a = b := by decide
    obtain rfl := hdistinct a hmem (f, text) h (congrArg LogLine.text hline)
    exact of_decide_eq_true hs
  · exact fun hs => ⟨_, List.mem_filter.mpr ⟨h, decide_eq_true hs⟩, rfl⟩

theorem level_of_mem_warnings {s : CertStatus} {line : LogLine} (h : line ∈ warnings s) :
    line.level = .warn := by
  obtain ⟨text, -, rfl⟩ := List.mem_map.mp h
  rfl

/-! ## Errors -/

/-- A policy that forbids more than an untrusted chain and a foreign host name is strict. -/
theorem meets_fatal_of_not_mem {s : CertStatus} (hinvalid : .invalid ∉ s)
    (hforeign : .hostnameMismatch ∉ s) (policy : Policy) :
    s.meets policy.fatal = true ↔ policy = .strict ∧ s ≠ ∅ := by
  cases policy with
  | lenient =>
    have hfatal : ∀ f ∈ Flag.all,
        f ∈ Policy.lenient.fatal → f = .invalid ∨ f = .hostnameMismatch := by decide
    refine ⟨fun h => ?_, fun h => nomatch h.1⟩
    obtain ⟨f, hf, hlenient⟩ := CertStatus.meets_iff.mp h
    obtain rfl | rfl := hfatal f f.mem_all hlenient
    · exact absurd hf hinvalid
    · exact absurd hf hforeign
  | strict =>
    refine ⟨fun h => ⟨rfl, ?_⟩, fun ⟨_, hne⟩ => ?_⟩
    · rintro rfl
      obtain ⟨f, hf, -⟩ := CertStatus.meets_iff.mp h
      exact CertStatus.not_mem_empty f hf
    · exact eq_true_of_ne_false (mt Policy.eq_empty_of_strict hne)

/-- **A verifier has something to complain of exactly if something is wrong**, and then it names the
first thing. -/
theorem complaint_eq_some_iff (v : Verifier) (q : Query) (line : LogLine) :
    v.complaint q = some line ↔ Complains v.serverName v.policy q line := by
  constructor
  · intro h
    rw [complaint] at h
    split at h
    · next hleaf => exact Option.some.inj h ▸ .lacksLeaf hleaf
    rw [objection] at h
    split at h
    · next hinvalid => exact Option.some.inj h ▸ .untrusted hinvalid
    next hinvalid =>
    split at h
    · next hforeign => exact Option.some.inj h ▸ .foreign hinvalid hforeign
    next hforeign =>
    split at h
    · next hfatal =>
      obtain ⟨hstrict, hsome⟩ := (meets_fatal_of_not_mem hinvalid hforeign v.policy).mp hfatal
      exact Option.some.inj h ▸ .forbidden hinvalid hforeign hstrict hsome
    · cases h
  · intro h
    cases h with
    | lacksLeaf hleaf => rw [complaint, if_pos hleaf]
    | untrusted hinvalid =>
      rw [complaint, if_neg (Query.not_lacksLeaf_of_mem hinvalid), objection, if_pos hinvalid]
    | foreign hinvalid hforeign =>
      rw [complaint, if_neg (Query.not_lacksLeaf_of_mem hforeign), objection, if_neg hinvalid,
        if_pos hforeign]
    | forbidden hinvalid hforeign hstrict hsome =>
      have hfatal := (meets_fatal_of_not_mem hinvalid hforeign v.policy).mpr ⟨hstrict, hsome⟩
      rw [complaint, if_neg (mt Query.flags_of_lacksLeaf hsome), objection, if_neg hinvalid,
        if_neg hforeign, if_pos hfatal]

theorem level_of_complaint {v : Verifier} {q : Query} {line : LogLine}
    (h : v.complaint q = some line) : line.level = .error := by
  cases (v.complaint_eq_some_iff q line).mp h <;> rfl

/-! ## One query -/

theorem warnings_ruling (v : Verifier) (known : CertStatus) (q : Query) :
    (v.ruling known q).warnings = warnings (q.flags \ known) := by
  have hwarnings : (warnings (q.flags \ known)).filter (fun line => line.level = .warn) =
      warnings (q.flags \ known) :=
    List.filter_eq_self.mpr fun line hline => decide_eq_true (level_of_mem_warnings hline)
  have hcomplaint : (v.complaint q).toList.filter (fun line => line.level = .warn) = [] :=
    List.filter_eq_nil_iff.mpr fun line hline => by
      simp [level_of_complaint (Option.mem_toList.mp hline)]
  rw [Ruling.warnings, ruling, List.filter_append, hwarnings, hcomplaint, List.append_nil]

theorem errors_ruling (v : Verifier) (known : CertStatus) (q : Query) :
    (v.ruling known q).errors = (v.complaint q).toList := by
  have hwarnings : (warnings (q.flags \ known)).filter (fun line => line.level = .error) = [] :=
    List.filter_eq_nil_iff.mpr fun line hline => by simp [level_of_mem_warnings hline]
  have hcomplaint : (v.complaint q).toList.filter (fun line => line.level = .error) =
      (v.complaint q).toList :=
    List.filter_eq_self.mpr fun line hline =>
      decide_eq_true (level_of_complaint (Option.mem_toList.mp hline))
  rw [Ruling.errors, ruling, List.filter_append, hwarnings, hcomplaint, List.nil_append]

/-- The warnings come before the error. -/
theorem lines_ruling (v : Verifier) (known : CertStatus) (q : Query) :
    (v.ruling known q).lines = (v.ruling known q).warnings ++ (v.ruling known q).errors := by
  rw [warnings_ruling, errors_ruling]
  rfl

/-- A warning is logged for a query if the flag is among the findings and not known yet. -/
theorem mem_ruling {f : Flag} {text : String} (h : (f, text) ∈ announcements) (v : Verifier)
    (known : CertStatus) (q : Query) :
    .warn text ∈ (v.ruling known q).lines ↔ f ∈ q.flags ∧ f ∉ known := by
  have hcomplaint : .warn text ∉ (v.complaint q).toList := fun hline =>
    nomatch level_of_complaint (Option.mem_toList.mp hline)
  rw [lines_ruling, warnings_ruling, errors_ruling, List.mem_append, mem_warnings h,
    CertStatus.mem_sdiff, or_iff_left hcomplaint]

theorem count_ruling {f : Flag} {text : String} (h : (f, text) ∈ announcements) (v : Verifier)
    (known : CertStatus) (q : Query) :
    (v.ruling known q).lines.count (.warn text) = if f ∈ q.flags ∧ f ∉ known then 1 else 0 := by
  have hcomplaint : .warn text ∉ (v.complaint q).toList := fun hline =>
    nomatch level_of_complaint (Option.mem_toList.mp hline)
  rw [lines_ruling, warnings_ruling, errors_ruling, List.count_append,
    List.count_eq_zero_of_not_mem hcomplaint, Nat.add_zero, (warnings_nodup _).count]
  simp only [mem_warnings h, CertStatus.mem_sdiff]

/-! ## All queries -/

/-- **When a warning is logged**: for the first query that has the flag, if it was not known. -/
theorem mem_lines_iff {v : Verifier} {queries : List Query} {before after : List Ruling}
    {x : Ruling} {f : Flag} {text : String} (hwarns : (f, text) ∈ announcements)
    (h : (v.consult queries).1 = before ++ x :: after) :
    .warn text ∈ x.lines ↔
      f ∈ x.query.flags ∧ f ∉ v.status ∧ ∀ y ∈ before, f ∉ y.query.flags := by
  rw [ruling_eq h, mem_ruling hwarns, CertStatus.mem_union, not_or, mem_findings]
  simp [ruling]

/-- **Which warnings are logged for a query**: those that are due, in their order. -/
theorem warnings_eq_of_consult {v : Verifier} {queries : List Query} {before after : List Ruling}
    {x : Ruling} (h : (v.consult queries).1 = before ++ x :: after) :
    x.warnings = (announcements.filter fun a => a.1 ∈ x.query.flags ∧ a.1 ∉ v.status ∧
      ∀ y ∈ before, a.1 ∉ y.query.flags).map fun a => .warn a.2 := by
  rw [ruling_eq h, warnings_ruling, warnings_eq]
  refine congrArg _ (List.filter_congr fun a _ => decide_eq_decide.mpr ?_)
  rw [CertStatus.mem_sdiff, CertStatus.mem_union, mem_findings, not_or]
  simp [ruling]

/-- **How often a warning is logged**: once if some query has the flag and it was not known. -/
theorem count_warn {f : Flag} {text : String} (hwarns : (f, text) ∈ announcements) (v : Verifier)
    (queries : List Query) :
    ((v.consult queries).1.flatMap Ruling.lines).count (.warn text) =
      if f ∉ v.status ∧ ∃ q ∈ queries, f ∈ q.flags then 1 else 0 := by
  -- Whether the first query has the flag decides if the verifier that answers the rest knows of it.
  induction queries generalizing v with
  | nil => simp [consult]
  | cons q queries ih =>
    rw [consult_cons, List.flatMap_cons, List.count_append, count_ruling hwarns, ih]
    by_cases hknown : f ∈ v.status <;> by_cases hq : f ∈ q.flags <;> simp [hknown, hq]

/-- The warnings are those of a verifier with another policy. -/
theorem map_warnings_consult (v : Verifier) (policy : Policy) (queries : List Query) :
    ({ v with policy }.consult queries).1.map Ruling.warnings =
      (v.consult queries).1.map Ruling.warnings := by
  induction queries generalizing v with
  | nil => rfl
  | cons q queries ih =>
    have hrest := ih { v with status := v.status ∪ q.flags }
    rw [consult_cons, consult_cons, List.map_cons, List.map_cons, warnings_ruling, warnings_ruling]
    exact congrArg _ hrest

/-- What makes a verifier warn once of each thing, and give one reason each time it rejects. -/
structure Candid (v : Verifier) (queries : List Query) : Prop where
  /-- Every query is answered, in order. -/
  answers : (v.consult queries).1.map Ruling.query = queries
  /-- A warning is logged at the first query with its flag and at no other. -/
  warns : ∀ f text before x after, (f, text) ∈ announcements →
    (v.consult queries).1 = before ++ x :: after →
    (.warn text ∈ x.lines ↔
      f ∈ x.query.flags ∧ f ∉ v.status ∧ ∀ y ∈ before, f ∉ y.query.flags)
  /-- That is once if its flag ever occurs, and never otherwise. -/
  once : ∀ f text, (f, text) ∈ announcements →
    ((v.consult queries).1.flatMap Ruling.lines).count (.warn text) =
      if f ∉ v.status ∧ ∃ q ∈ queries, f ∈ q.flags then 1 else 0
  /-- Warnings come before errors, and there is nothing else. -/
  ordered : ∀ x ∈ (v.consult queries).1, x.lines = x.warnings ++ x.errors
  /-- The warnings for one query are those that are due then, in a fixed order. -/
  sorted : ∀ before x after, (v.consult queries).1 = before ++ x :: after →
    x.warnings = (announcements.filter fun a => a.1 ∈ x.query.flags ∧ a.1 ∉ v.status ∧
      ∀ y ∈ before, a.1 ∉ y.query.flags).map fun a => .warn a.2
  /-- There is no error if the handshake goes on. -/
  proceeds : ∀ x ∈ (v.consult queries).1, x.verdict = .proceed → x.errors = []
  /-- There is one error if it does not, with the first thing that is wrong. -/
  rejects : ∀ x ∈ (v.consult queries).1, x.verdict = .reject →
    ∃ line, x.errors = [line] ∧ Complains v.serverName v.policy x.query line
  /-- The policy has no part in the warnings. -/
  neutral : ∀ policy, ({ v with policy }.consult queries).1.map Ruling.warnings =
    (v.consult queries).1.map Ruling.warnings

/-- **A verifier warns once of each thing, and gives one reason each time it rejects.** -/
theorem candid (v : Verifier) (queries : List Query) : v.Candid queries := by
  constructor
  case answers => exact v.map_query_consult queries
  case warns => exact fun f text before x after hwarns h => mem_lines_iff hwarns h
  case once => exact fun f text hwarns => v.count_warn hwarns queries
  case ordered =>
    intro x hx
    obtain ⟨known, hx⟩ := exists_ruling_eq hx
    rw [hx, lines_ruling]
  case sorted => exact fun before x after h => warnings_eq_of_consult h
  case proceeds =>
    intro x hx hverdict
    rw [verdict_eq hx] at hverdict
    obtain ⟨known, hx⟩ := exists_ruling_eq hx
    rw [hx, errors_ruling]
    cases hcomplaint : v.complaint x.query with
    | none => rfl
    | some line => rw [hcomplaint] at hverdict; cases hverdict
  case rejects =>
    intro x hx hverdict
    rw [verdict_eq hx] at hverdict
    obtain ⟨known, hx⟩ := exists_ruling_eq hx
    cases hcomplaint : v.complaint x.query with
    | none => rw [hcomplaint] at hverdict; cases hverdict
    | some line =>
      refine ⟨line, ?_, (v.complaint_eq_some_iff x.query line).mp hcomplaint⟩
      rw [hx, errors_ruling, hcomplaint]
      rfl
  case neutral => exact fun policy => v.map_warnings_consult policy queries

end Verifier

end SecureStream
