/-!
# Retrying

An operation that was interrupted is made again, until an outcome is decisive: a success, or a
failure that is not transient.

* `Retry.within`: at most so many attempts, with the decisive outcome if there was one;
* `Retry.run`: as many attempts as it takes, for an operation that cannot be interrupted forever;
* `Retry.run_eq_of_decisive`, `Retry.run_eq_of_transient`: what the first attempt settles;
* `Retry.run_induction`: what a run keeps from its attempts.

The operation is a function on states. Interruptions come to an end because some number goes down
with each of them.
-/

namespace SecureStream.Retry

variable {σ α : Type}

/-- The first decisive outcome of at most `n` attempts, and the state behind the last attempt. -/
def within (step : σ → α × σ) (transient : α → Bool) : Nat → σ → Option α × σ
  | 0, s => (none, s)
  | n + 1, s =>
    let r := step s
    if transient r.1 then within step transient n r.2 else (some r.1, r.2)

theorem within_succ (step : σ → α × σ) (transient : α → Bool) (n : Nat) (s : σ) :
    within step transient (n + 1) s =
      if transient (step s).1 then within step transient n (step s).2
      else (some (step s).1, (step s).2) := rfl

/-- Each transient outcome of `step` lowers `bound`. -/
def Bounded (step : σ → α × σ) (transient : α → Bool) (bound : σ → Nat) : Prop :=
  ∀ s, transient (step s).1 = true → bound (step s).2 < bound s

variable {step : σ → α × σ} {transient : α → Bool} {bound : σ → Nat}

/-- One attempt more than the bound is enough. -/
theorem isSome_within (h : Bounded step transient bound) :
    ∀ n s, bound s < n → (within step transient n s).1.isSome = true
  | 0, _, hn => absurd hn (Nat.not_lt_zero _)
  | n + 1, s, hn => by
    rw [within_succ]
    split
    · next ht => exact isSome_within h n _ (Nat.lt_of_lt_of_le (h s ht) (Nat.le_of_lt_succ hn))
    · rfl

/-- The first decisive outcome. -/
def run (h : Bounded step transient bound) (s : σ) : α × σ :=
  match hr : within step transient (bound s + 1) s with
  | (some a, s') => (a, s')
  | (none, _) => absurd (isSome_within h (bound s + 1) s (Nat.lt_succ_self _)) (by simp [hr])

/-- A decisive outcome of fewer attempts is that of any greater number of attempts. -/
theorem within_mono :
    ∀ {n m : Nat} {s : σ} {a : α} {s' : σ}, within step transient n s = (some a, s') → n ≤ m →
      within step transient m s = (some a, s')
  | 0, _, _, _, _, h, _ => by simp [within] at h
  | n + 1, 0, _, _, _, _, hm => absurd hm (Nat.not_succ_le_zero _)
  | n + 1, m + 1, s, a, s', h, hm => by
    rw [within_succ] at h ⊢
    split at h
    · next ht => rw [if_pos ht]; exact within_mono h (Nat.le_of_succ_le_succ hm)
    · next ht => rw [if_neg ht]; exact h

/-- A run has its outcome within the bound. -/
theorem within_bound (h : Bounded step transient bound) (s : σ) :
    within step transient (bound s + 1) s = (some (run h s).1, (run h s).2) := by
  unfold run
  split
  · next hr => exact hr
  · next hr => exact absurd (isSome_within h _ s (Nat.lt_succ_self _)) (by simp [hr])

/-- The outcome of a run is that of any number of attempts that has one. -/
theorem run_eq_of_within (h : Bounded step transient bound) {n : Nat} {s s' : σ} {a : α}
    (hn : within step transient n s = (some a, s')) : run h s = (a, s') := by
  have h₁ := within_mono hn (Nat.le_max_left n (bound s + 1))
  have h₂ := within_mono (within_bound h s) (Nat.le_max_right n (bound s + 1))
  rw [h₁] at h₂
  simp only [Prod.mk.injEq, Option.some.injEq] at h₂
  exact Prod.ext h₂.1.symm h₂.2.symm

/-- A decisive outcome is the result, after one attempt. -/
theorem run_eq_of_decisive (h : Bounded step transient bound) {s : σ}
    (hs : transient (step s).1 = false) : run h s = step s :=
  @run_eq_of_within _ _ _ _ _ h 1 _ _ _ (by simp [within_succ, hs])

/-- After a transient outcome all is as if that attempt had been the state's own doing. -/
theorem run_eq_of_transient (h : Bounded step transient bound) {s : σ}
    (hs : transient (step s).1 = true) : run h s = run h (step s).2 := by
  have hn : within step transient (bound (step s).2 + 2) s =
      (some (run h (step s).2).1, (run h (step s).2).2) := by
    rw [within_succ, if_pos hs, within_bound h]
  exact run_eq_of_within h hn

/-- The result of a run is decisive. -/
theorem not_transient_run (h : Bounded step transient bound) (s : σ) :
    transient (run h s).1 = false := by
  cases hs : transient (step s).1 with
  | false => rw [run_eq_of_decisive h hs]; exact hs
  | true =>
    have := h s hs
    rw [run_eq_of_transient h hs]
    exact not_transient_run h (step s).2
termination_by bound s

/-- What holds of a decisive attempt, and is kept by a transient attempt in front, holds of a
run. -/
theorem run_induction (h : Bounded step transient bound) {P : σ → α × σ → Prop}
    (decisive : ∀ s, transient (step s).1 = false → P s (step s))
    (again : ∀ s r, transient (step s).1 = true → P (step s).2 r → P s r) (s : σ) :
    P s (run h s) := by
  cases hs : transient (step s).1 with
  | false => rw [run_eq_of_decisive h hs]; exact decisive s hs
  | true =>
    have := h s hs
    rw [run_eq_of_transient h hs]
    exact again s _ hs (run_induction h decisive again (step s).2)
termination_by bound s

end SecureStream.Retry
