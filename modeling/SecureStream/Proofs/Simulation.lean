import SecureStream.Proofs.Comparison

/-!
# Clients in two environments

The same step is made in a world of one environment and in a world of another. If the worlds are
related, and related worlds answer alike to every operation, then they answer alike to everything
that a client does.

* `Reaches`, **`run_eq_of_reaches`**: operations that are made again on both sides, with
  interruptions of either side's own;
* `Agree`: two steps with the same results from related worlds;
* `Mirrors`, `Simulates`: what related worlds have to agree on;
* **`Simulates.answer`**: clients then answer alike.
-/

namespace SecureStream

variable {σ σ' α β : Type}

/-! ## Operations that are made again -/

section

variable {step : σ → α × σ} {step' : σ' → α × σ'} {transient : α → Bool} {bound : σ → Nat}
  {bound' : σ' → Nat}

/-- From a state the step comes to a result with `P`, after some interruptions. -/
inductive Reaches (step : σ → α × σ) (transient : α → Bool) (P : α × σ → Prop) : σ → Prop
  | now {s} : P (step s) → Reaches step transient P s
  | later {s} : transient (step s).1 = true → Reaches step transient P (step s).2 →
    Reaches step transient P s

/-- A step that answers like another one, and goes on from an interruption like that one, comes to
the same results. -/
theorem Reaches.of_step {P : α × σ → Prop} {P' : α × σ' → Prop} {Q : σ → σ' → Prop}
    (hstep : ∀ s s', Q s s' → (step' s').1 = (step s).1)
    (hlater : ∀ s s', Q s s' → transient (step s).1 = true → Q (step s).2 (step' s').2)
    (hnow : ∀ s s', Q s s' → P (step s) → P' (step' s')) {s : σ} {s' : σ'}
    (h : Reaches step transient P s) (hs : Q s s') : Reaches step' transient P' s' := by
  induction h generalizing s' with
  | now h => exact .now (hnow _ _ hs h)
  | later htransient _ ih =>
    refine .later ?_ (ih (hlater _ _ hs htransient))
    rw [hstep _ _ hs]
    exact htransient

/-- What a step comes to is the outcome of a run, or the run goes on from there. -/
theorem Reaches.run {P : α × σ → Prop} {s : σ} (h : Reaches step transient P s)
    (hstep : Retry.Bounded step transient bound) : ∃ r, P r ∧
      (transient r.1 = false → Retry.run hstep s = r) ∧
      (transient r.1 = true → Retry.run hstep s = Retry.run hstep r.2) := by
  induction h with
  | @now s hP =>
    exact ⟨step s, hP, Retry.run_eq_of_decisive hstep, Retry.run_eq_of_transient hstep⟩
  | @later s htransient _ ih =>
    obtain ⟨r, hP, hdecisive, hagain⟩ := ih
    rw [Retry.run_eq_of_transient hstep htransient]
    exact ⟨r, hP, hdecisive, hagain⟩

/-- **Runs have the same outcome if each attempt on the one side is made up for on the other.** -/
theorem run_eq_of_reaches {R : σ → σ' → Prop} (hstep : Retry.Bounded step transient bound)
    (hstep' : Retry.Bounded step' transient bound')
    (h : ∀ s s', R s s' →
      Reaches step' transient (fun r => r.1 = (step s).1 ∧ R (step s).2 r.2) s')
    {s : σ} {s' : σ'} (hs : R s s') :
    (Retry.run hstep s).1 = (Retry.run hstep' s').1 ∧
      R (Retry.run hstep s).2 (Retry.run hstep' s').2 := by
  refine Retry.run_induction hstep (P := fun s r => ∀ s', R s s' →
    r.1 = (Retry.run hstep' s').1 ∧ R r.2 (Retry.run hstep' s').2)
    (fun s hdecisive s' hs => ?_) (fun s r htransient ih s' hs => ?_) s s' hs
  · obtain ⟨r, ⟨hr, hR⟩, heq, -⟩ := (h s s' hs).run hstep'
    rw [heq (by rw [hr]; exact hdecisive)]
    exact ⟨hr.symm, hR⟩
  · obtain ⟨r', ⟨hr, hR⟩, -, heq⟩ := (h s s' hs).run hstep'
    rw [heq (by rw [hr]; exact htransient)]
    exact ih _ hR

end

/-! ## Steps from related worlds -/

/-- From related worlds the steps have the same result, and lead to related worlds. -/
def Agree (R : World σ → World σ' → Prop) (f : Act σ α) (f' : Act σ' α) : Prop :=
  ∀ w w', R w w' → (f w).1 = (f' w').1 ∧ R (f w).2 (f' w').2

namespace Agree

variable {R : World σ → World σ' → Prop}

theorem pure (a : α) : Agree R (Pure.pure a : Act σ α) (Pure.pure a : Act σ' α) :=
  fun _ _ hw => ⟨rfl, hw⟩

theorem bind {f : Act σ α} {f' : Act σ' α} {g : α → Act σ β} {g' : α → Act σ' β}
    (hf : Agree R f f') (hg : ∀ a, Agree R (g a) (g' a)) : Agree R (f >>= g) (f' >>= g') := by
  intro w w' hw
  obtain ⟨ha, hw⟩ := hf w w' hw
  have hb := hg (f w).1 (f w).2 (f' w').2 hw
  rw [ha] at hb
  change (g (f w).1 (f w).2).1 = _ ∧ R (g (f w).1 (f w).2).2 _
  rw [ha]
  exact hb

end Agree

/-- Related worlds answer alike to operations that neither begin nor end a session. -/
structure Mirrors (E : Environment σ) (E' : Environment σ') (R : World σ → World σ' → Prop) :
    Prop where
  record : ∀ lines w w', R w w' → R (w.record lines) (w'.record lines)
  persist : ∀ op, op.isOrdinary = true → Agree R (persist E op) (persist E' op)

/-- What related worlds have to agree on for clients not to tell them apart. -/
structure Simulates (E : Environment σ) (E' : Environment σ') (R : World σ → World σ' → Prop) :
    Prop extends Mirrors E E' R where
  count : ∀ (g : Nat → Nat) w w', R w w' →
    R { w with openSessions := g w.openSessions } { w' with openSessions := g w'.openSessions }
  announce : ∀ s, Agree R (perform E (.tlsShutdown s)) (perform E' (.tlsShutdown s))
  attempts : ∀ socket request v w w', R w w' →
    (Retry.run (Pending.bounded_attemptHandshake E socket request) (w, v)).1 =
      (Retry.run (Pending.bounded_attemptHandshake E' socket request) (w', v)).1 ∧
    (Retry.run (Pending.bounded_attemptHandshake E socket request) (w, v)).2.2 =
      (Retry.run (Pending.bounded_attemptHandshake E' socket request) (w', v)).2.2 ∧
    R (Retry.run (Pending.bounded_attemptHandshake E socket request) (w, v)).2.1
      (Retry.run (Pending.bounded_attemptHandshake E' socket request) (w', v)).2.1

variable {E : Environment σ} {E' : Environment σ'} {R : World σ → World σ' → Prop}

theorem Mirrors.compares (h : Mirrors E E' R) : Compares E E' fun _ => Agree R where
  pure := .pure
  bind := .bind
  record lines w w' hw := ⟨rfl, h.record lines w w' hw⟩
  persist := h.persist

theorem Simulates.comparesAll (h : Simulates E E' R) : ComparesAll E E' fun _ => Agree R where
  toCompares := h.toMirrors.compares
  count g w w' hw := ⟨rfl, h.count g w w' hw⟩
  announce := h.announce
  attempts socket request v w w' hw := by
    obtain ⟨ho, hv, hw⟩ := h.attempts socket request v w w' hw
    exact ⟨Prod.ext ho hv, hw⟩

/-- **Clients answer every call alike in related worlds.** -/
theorem Simulates.answer (h : Simulates E E' R) (c : Client) (call : Call) :
    Agree R (c.answer E call) (c.answer E' call) := h.comparesAll.answer c call

end SecureStream
