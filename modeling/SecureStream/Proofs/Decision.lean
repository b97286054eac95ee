import Mathlib.Logic.Function.Iterate
import Mathlib.Order.Bounds.Basic
import Mathlib.Order.Nat
import SecureStream.Peer.Outcomes

/-!
# The first decisive outcome

An operation that is made again and again has an outcome each time. Retrying it skips the transient
ones, returns the first that is not transient, and makes no attempt after that one.

* `Retry.after`, `Retry.outcome`: the state behind so many attempts, and what the next one comes to;
* `Retry.Returns`: what retrying returns, if it comes to an end;
* `Retry.returns_iff`, `Retry.within_eq_some_iff`, `Retry.within_eq_none_iff`: it is the first
  decisive outcome, also if the number of attempts is limited;
* `Retry.scripted`: an operation with given outcomes, which keeps count of its attempts;
* `Retry.again`, `Retry.decisive`: failures with an error that is transient, and the places of all
  other outcomes;
* **`Retry.returns_first`**: that is so for every sequence of outcomes.
-/

namespace SecureStream.Retry

/-! ## Attempts in a row -/

section

variable {σ α : Type} {step : σ → α × σ} {transient : α → Bool} {bound : σ → Nat} {s : σ}
  {k : Nat}

/-- The state behind so many attempts, whatever they come to. -/
def after (step : σ → α × σ) (s : σ) (n : Nat) : σ := (fun s => (step s).2)^[n] s

/-- What an attempt comes to that has so many attempts in front of it. -/
def outcome (step : σ → α × σ) (s : σ) (n : Nat) : α := (step (after step s n)).1

theorem after_succ (step : σ → α × σ) (s : σ) (n : Nat) :
    after step s (n + 1) = (step (after step s n)).2 :=
  Function.iterate_succ_apply' _ n s

theorem step_after (step : σ → α × σ) (s : σ) (n : Nat) :
    step (after step s n) = (outcome step s n, after step s (n + 1)) :=
  Prod.ext rfl (after_succ step s n).symm

/-! ## A limited number of attempts -/

/-- Attempts that are all transient only use up their number. -/
theorem within_add (h : ∀ i < k, transient (outcome step s i) = true) (n : Nat) :
    within step transient (k + n) s = within step transient n (after step s k) := by
  induction k generalizing n with
  | zero => rw [Nat.zero_add]; rfl
  | succ k ih =>
    have hk : transient (step (after step s k)).1 = true := h k (Nat.lt_succ_self k)
    rw [Nat.add_right_comm, Nat.add_assoc, ih (fun i hi => h i (Nat.lt_succ_of_lt hi)),
      within_succ, if_pos hk, after_succ]

/-- The attempts in front of the first decisive one are transient. -/
theorem transient_of_lt {outcomes : Nat → α} (h : IsLeast {i | transient (outcomes i) = false} k)
    {i : Nat} (hi : i < k) : transient (outcomes i) = true := by
  rw [← Bool.not_eq_false]
  exact fun hdecisive => absurd (h.2 hdecisive) (Nat.not_le_of_lt hi)

theorem within_eq_none {n : Nat} (h : ∀ i < n, transient (outcome step s i) = true) :
    within step transient n s = (none, after step s n) :=
  within_add h 0

theorem within_eq_some {n : Nat}
    (h : IsLeast {i | transient (outcome step s i) = false} k) (hn : k < n) :
    within step transient n s = (some (outcome step s k), after step s (k + 1)) := by
  obtain ⟨m, rfl⟩ := Nat.exists_eq_add_of_lt hn
  have hk : transient (step (after step s k)).1 = false := h.1
  rw [Nat.add_assoc, within_add (fun i hi => transient_of_lt h hi), within_succ, hk,
    step_after step s k]
  exact if_neg Bool.false_ne_true

theorem within_eq_ite (h : IsLeast {i | transient (outcome step s i) = false} k) (n : Nat) :
    within step transient n s = if k < n then (some (outcome step s k), after step s (k + 1))
      else (none, after step s n) := by
  split
  · next hlt => exact within_eq_some h hlt
  · next hge =>
    have hle : n ≤ k := Nat.le_of_not_lt hge
    exact within_eq_none fun i hi => transient_of_lt h (Nat.lt_of_lt_of_le hi hle)

/-- Among so many attempts there is no decisive outcome, or there is a first one. -/
theorem transient_or_exists_first (transient : α → Bool) (outcomes : Nat → α) (n : Nat) :
    (∀ i < n, transient (outcomes i) = true) ∨
      ∃ k < n, IsLeast {i | transient (outcomes i) = false} k := by
  by_cases h : ∀ i < n, transient (outcomes i) = true
  · exact .inl h
  · push Not at h
    obtain ⟨i, hi, hne⟩ := h
    have hdecisive : transient (outcomes i) = false := Bool.eq_false_iff.mpr hne
    have hfirst := Nat.isLeast_find (p := fun i => transient (outcomes i) = false) ⟨i, hdecisive⟩
    exact .inr ⟨_, Nat.lt_of_le_of_lt (hfirst.2 hdecisive) hi, hfirst⟩

theorem within_eq_none_iff (step : σ → α × σ) (transient : α → Bool) (s : σ) (n : Nat) :
    within step transient n s = (none, after step s n) ↔
      ∀ i < n, transient (outcome step s i) = true := by
  refine ⟨fun h => ?_, within_eq_none⟩
  obtain htransient | ⟨k, hk, hfirst⟩ := transient_or_exists_first transient (outcome step s) n
  · exact htransient
  · rw [within_eq_some hfirst hk] at h
    exact absurd (congrArg Prod.fst h) (Option.some_ne_none _)

theorem within_eq_some_iff (step : σ → α × σ) (transient : α → Bool) (s : σ) (n : Nat)
    (r : α × σ) :
    within step transient n s = (some r.1, r.2) ↔
      ∃ k < n, IsLeast {i | transient (outcome step s i) = false} k ∧
        r = (outcome step s k, after step s (k + 1)) := by
  constructor
  · intro h
    obtain htransient | ⟨k, hk, hfirst⟩ := transient_or_exists_first transient (outcome step s) n
    · rw [within_eq_none htransient] at h
      exact absurd (congrArg Prod.fst h) (Option.some_ne_none _).symm
    · rw [within_eq_some hfirst hk] at h
      simp only [Prod.mk.injEq, Option.some.injEq] at h
      exact ⟨k, hk, hfirst, Prod.ext h.1.symm h.2.symm⟩
  · rintro ⟨k, hk, hfirst, rfl⟩
    exact within_eq_some hfirst hk

/-! ## Attempts without a limit -/

/-- Retrying from a state comes to an end with an outcome and a state: an attempt is decisive, or it
is transient and retrying goes on from there. -/
inductive Returns (step : σ → α × σ) (transient : α → Bool) : σ → α × σ → Prop
  | decided {t : σ} : transient (step t).1 = false → Returns step transient t (step t)
  | later {t : σ} {r : α × σ} : transient (step t).1 = true → Returns step transient (step t).2 r →
    Returns step transient t r

/-- Attempts in front that are all transient do not matter. -/
theorem Returns.of_after {r : α × σ} (h : ∀ i < k, transient (outcome step s i) = true)
    (hr : Returns step transient (after step s k) r) : Returns step transient s r := by
  induction k with
  | zero => exact hr
  | succ k ih =>
    rw [after_succ] at hr
    exact ih (fun i hi => h i (Nat.lt_succ_of_lt hi)) (.later (h k (Nat.lt_succ_self k)) hr)

theorem returns_of_first (h : IsLeast {i | transient (outcome step s i) = false} k) :
    Returns step transient s (outcome step s k, after step s (k + 1)) := by
  rw [← step_after]
  exact .of_after (fun i hi => transient_of_lt h hi) (.decided h.1)

theorem Returns.exists_first {r : α × σ} (h : Returns step transient s r) :
    ∃ k, IsLeast {i | transient (outcome step s i) = false} k ∧
      r = (outcome step s k, after step s (k + 1)) := by
  induction h with
  | decided hs => exact ⟨0, ⟨hs, fun i _ => Nat.zero_le i⟩, rfl⟩
  | later hs _ ih =>
    -- Seen from one attempt earlier, every place is one further on.
    obtain ⟨k, hfirst, hr⟩ := ih
    refine ⟨k + 1, ⟨hfirst.1, fun i hi => ?_⟩, hr⟩
    cases i with
    | zero => exact absurd (hs.symm.trans hi) Bool.false_ne_true.symm
    | succ i => exact Nat.succ_le_succ (hfirst.2 hi)

theorem returns_iff (step : σ → α × σ) (transient : α → Bool) (s : σ) (r : α × σ) :
    Returns step transient s r ↔ ∃ k, IsLeast {i | transient (outcome step s i) = false} k ∧
      r = (outcome step s k, after step s (k + 1)) := by
  refine ⟨Returns.exists_first, ?_⟩
  rintro ⟨k, hfirst, rfl⟩
  exact returns_of_first hfirst

theorem not_returns_iff (step : σ → α × σ) (transient : α → Bool) (s : σ) :
    (∀ r, ¬ Returns step transient s r) ↔ ∀ i, transient (outcome step s i) = true := by
  constructor
  · intro h i
    rw [← Bool.not_eq_false]
    intro hi
    exact h _ (returns_of_first (Nat.isLeast_find ⟨i, hi⟩))
  · intro h r hr
    obtain ⟨k, hfirst, -⟩ := hr.exists_first
    exact Bool.false_ne_true (hfirst.1.symm.trans (h k))

/-- A run is what retrying returns. -/
theorem returns_run (h : Bounded step transient bound) (s : σ) :
    Returns step transient s (run h s) :=
  run_induction h (fun _ => .decided) (fun _ _ => .later) s

end

/-! ## Sequences of outcomes -/

section

variable {ε α : Type} {isTransient : ε → Bool} {outcomes : Nat → Except ε α}

/-- An operation that comes to given outcomes, one after the other. Its state is the number of
attempts that have been made. -/
def scripted (outcomes : Nat → Except ε α) (n : Nat) : Except ε α × Nat := (outcomes n, n + 1)

@[simp] theorem after_scripted (outcomes : Nat → Except ε α) (n : Nat) :
    after (scripted outcomes) 0 n = n := by
  induction n with
  | zero => rfl
  | succ n ih => rw [after_succ, ih]; rfl

@[simp] theorem outcome_scripted (outcomes : Nat → Except ε α) :
    outcome (scripted outcomes) 0 = outcomes :=
  funext fun n => congrArg outcomes (after_scripted outcomes n)

/-- An operation that failed is made again if its error is transient. -/
def again (isTransient : ε → Bool) : Except ε α → Bool
  | .error e => isTransient e
  | .ok _ => false

/-- The places of the decisive outcomes: the successes, and the failures that are not transient. -/
def decisive (isTransient : ε → Bool) (outcomes : Nat → Except ε α) : Set Nat :=
  {i | (∃ a, outcomes i = .ok a) ∨ ∃ e, outcomes i = .error e ∧ isTransient e = false}

theorem again_eq_false_iff {i : Nat} :
    again isTransient (outcomes i) = false ↔ i ∈ decisive isTransient outcomes := by
  rw [decisive, Set.mem_ofPred_eq]
  cases outcomes i with
  | ok a => simp [again]
  | error e => simp [again]

theorem setOf_again (isTransient : ε → Bool) (outcomes : Nat → Except ε α) :
    {i | again isTransient (outcomes i) = false} = decisive isTransient outcomes :=
  Set.ext fun _ => again_eq_false_iff

theorem again_iff_notMem {i : Nat} :
    again isTransient (outcomes i) = true ↔ i ∉ decisive isTransient outcomes := by
  rw [← Bool.not_eq_false]
  exact not_congr again_eq_false_iff

/-- **Retrying returns the first decisive outcome**, after one attempt for it and one for each
outcome in front of it, and never comes to an end without one. That holds of any sequence of
outcomes, with errors of any kind, and of every run of an operation that cannot be interrupted
forever. A failure of the TLS library that comes from the transport is transient if the transport's
error is, whatever its code; any other one is transient if the library waits to read or to write. -/
theorem returns_first (isTransient : ε → Bool) (outcomes : Nat → Except ε α) :
    (∀ o n, Returns (scripted outcomes) (again isTransient) 0 (o, n) ↔
      ∃ k, IsLeast (decisive isTransient outcomes) k ∧ o = outcomes k ∧ n = k + 1) ∧
    ((∀ r, ¬ Returns (scripted outcomes) (again isTransient) 0 r) ↔
      ∀ i, i ∉ decisive isTransient outcomes) ∧
    (∀ n o m, within (scripted outcomes) (again isTransient) n 0 = (some o, m) ↔
      ∃ k < n, IsLeast (decisive isTransient outcomes) k ∧ o = outcomes k ∧ m = k + 1) ∧
    (∀ n, within (scripted outcomes) (again isTransient) n 0 = (none, n) ↔
      ∀ i < n, i ∉ decisive isTransient outcomes) ∧
    (∀ (σ β : Type) (step : σ → β × σ) (transient : β → Bool) (bound : σ → Nat)
      (h : Bounded step transient bound) (s : σ),
      Returns step transient s (run h s) ∧
      ∃ k, IsLeast {i | transient (outcome step s i) = false} k ∧
        run h s = (outcome step s k, after step s (k + 1)) ∧
        ∀ n, within step transient n s =
          if k < n then (some (run h s).1, (run h s).2) else (none, after step s n)) ∧
    ∀ e : Tls.Failure, e.isTransient = true ↔
      (∃ error, e.systemError? = some error ∧ error.isTransient = true) ∨
        (e.systemError? = none ∧ (e.code = .wantRead ∨ e.code = .wantWrite)) := by
  refine ⟨fun o n => ?_, ?_, fun n o m => ?_, fun n => ?_, fun σ β step transient bound h s => ?_,
    Tls.Failure.isTransient_iff⟩
  · simp only [returns_iff, outcome_scripted, after_scripted, setOf_again, Prod.mk.injEq]
  · simp only [not_returns_iff, outcome_scripted, again_iff_notMem]
  · have hiff := within_eq_some_iff (scripted outcomes) (again isTransient) 0 n (o, m)
    simpa only [outcome_scripted, after_scripted, setOf_again, Prod.mk.injEq] using hiff
  · have hiff := within_eq_none_iff (scripted outcomes) (again isTransient) 0 n
    simpa only [outcome_scripted, after_scripted, again_iff_notMem] using hiff
  · obtain ⟨k, hfirst, hrun⟩ := (returns_run h s).exists_first
    refine ⟨returns_run h s, k, hfirst, hrun, fun n => ?_⟩
    rw [hrun]
    exact within_eq_ite hfirst n

/-- Two interruptions in front of a success are made up for, and what is behind it is left alone. -/
theorem returns_first_listed :
    Bounded (Peer.Listed.attempt 9) Peer.Listed.isTransient (fun l => l.outcomes.length) ∧
    Peer.Listed.run 9 [.error (.bare .interrupted), .error (.os 4), .ok 7, .ok 8] =
      (.ok 7, ⟨[.ok 8], 3⟩) ∧
    ∀ r, ¬ Returns (scripted fun _ => (.error (.os 4) : Except SystemError Nat))
      (again SystemError.isTransient) 0 r := by
  have hfirst := returns_first SystemError.isTransient
    fun _ => (.error (.os 4) : Except SystemError Nat)
  refine ⟨Peer.Listed.bounded_attempt 9, ?_, hfirst.2.1.mpr fun _ => again_iff_notMem.mp rfl⟩
  obtain ⟨-, k, hk, hrun, -⟩ := hfirst.2.2.2.2.1 _ _ _ _ _ (Peer.Listed.bounded_attempt 9)
    ⟨[.error (.bare .interrupted), .error (.os 4), .ok 7, .ok 8], 0⟩
  have htwo : k = 2 := by
    refine hk.unique ⟨rfl, fun i hi => ?_⟩
    match i with
    | 0 | 1 => exact Bool.noConfusion hi
    | i + 2 => exact Nat.le_add_left 2 i
  subst htwo
  exact hrun

end

end SecureStream.Retry
