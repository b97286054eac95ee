import SecureStream.Proofs.Comparison

/-!
# The same answers again

What a client does depends on the answers that it gets, and on nothing else. If another environment
answers in the same way, then the same is done and logged there, and with the same result.

* `Environment.Follows`, `Environment.after`: an environment that answers as some events tell;
* `Environment.replay`, `Environment.follows_replay`: there is such an environment for any events;
* `RepeatedBy`, `Repeats`: a step that does the same where it gets the same answers;
* `Repeats.persist`, `Pending.repeats_attempts`: operations that are made again;
* **`Client.repeats_answer`**: clients do the same where they get the same answers.
-/

namespace SecureStream

variable {σ σ' α β : Type} {E : Environment σ} {E' : Environment σ'}

/-! ## Environments that answer as events tell -/

namespace Environment

variable (E : Environment σ)

/-- The environment answers the operations of some events as the events tell, if they are made in
order. -/
inductive Follows : σ → List Event → Prop
  | nil {s} : Follows s []
  | cons {s ev es} : (E.answer ev.op s).1 = ev.answer → Follows (E.answer ev.op s).2 es →
    Follows s (ev :: es)

/-- The state after the operations of some events. -/
def after : σ → List Event → σ
  | s, [] => s
  | s, ev :: es => after (E.answer ev.op s).2 es

theorem follows_cons {s : σ} {ev : Event} {es : List Event} : E.Follows s (ev :: es) ↔
    (E.answer ev.op s).1 = ev.answer ∧ E.Follows (E.answer ev.op s).2 es := by
  constructor
  · intro h
    cases h with
    | cons hanswer hrest => exact ⟨hanswer, hrest⟩
  · exact fun h => .cons h.1 h.2

theorem follows_append (s : σ) (es es' : List Event) :
    E.Follows s (es ++ es') ↔ E.Follows s es ∧ E.Follows (E.after s es) es' := by
  induction es generalizing s with
  | nil => exact ⟨fun h => ⟨.nil, h⟩, fun h => h.2⟩
  | cons ev es ih => rw [List.cons_append, follows_cons, follows_cons, ih, and_assoc, after]

theorem after_append (s : σ) (es es' : List Event) :
    E.after s (es ++ es') = E.after (E.after s es) es' := by
  induction es generalizing s with
  | nil => rfl
  | cons ev es ih => exact ih _

end Environment

/-- An answer that nothing comes of. -/
def Op.failure : (op : Op) → op.Answer
  | release => ⟨0, ""⟩
  | setUp _ => .error .nonempty
  | set _ => ()
  | handshake _ _ _ => ⟨[], .error ⟨.ssl, .unknown⟩⟩
  | tlsRead _ _ | tlsWrite _ _ | tlsShutdown _ => .error ⟨.ssl, .unknown⟩
  | readFile _ | resolve _ _ | socket _ | noDelay _ | keepAlive _ _ | connect _ _ _ | readLimit _ _
  | writeLimit _ _ | duplicate _ | read _ _ | write _ _ | shutdown _ => .error (.os 5)

theorem Op.not_isTransient_failure (op : Op) : op.isTransient op.failure = false := by
  cases op <;> rfl

namespace Environment

/-- The answers of some events, one after the other, to the operations that they are about. -/
def replayed (op : Op) : List Event → op.Answer × List Event
  | [] => (op.failure, [])
  | ev :: es => if h : ev.op = op then (h ▸ ev.answer, es) else (op.failure, es)

/-- An environment that answers as the events tell that are its state. -/
def replay : Environment (List Event) where
  answer := replayed
  patience := List.length
  patience_lt op es h := by
    cases es with
    | nil =>
      rw [replayed, op.not_isTransient_failure] at h
      exact nomatch h
    | cons ev es =>
      have hstate : (replayed op (ev :: es)).2 = es := by
        by_cases hop : ev.op = op
        · rw [replayed, dif_pos hop]
        · rw [replayed, dif_neg hop]
      rw [hstate]
      exact Nat.lt_succ_self _

theorem follows_replay (es : List Event) : replay.Follows (World.start es).state es := by
  change replay.Follows es es
  induction es with
  | nil => exact .nil
  | cons ev es ih =>
    have hanswer : replay.answer ev.op (ev :: es) = (ev.answer, es) := dif_pos rfl
    rw [follows_cons, hanswer]
    exact ⟨rfl, ih⟩

end Environment

/-! ## Steps that do the same where they get the same answers -/

/-- In a world, a step has some result after some events and lines, the environment following the
events. -/
structure Retraces (E : Environment σ) (f : Act σ α) (w : World σ) (a : α) (es : List Event)
    (lines : List LogLine) : Prop where
  result : (f w).1 = a
  state : (f w).2.state = E.after w.state es
  gains : World.Gains w (f w).2 es lines

namespace Retraces

variable {f : Act σ α} {g : Act σ β} {w : World σ} {a : α} {b : β} {es es' : List Event}
  {lines lines' : List LogLine}

theorem of_eq {f' : Act σ α} (h : Retraces E f w a es lines) (heq : f' w = f w) :
    Retraces E f' w a es lines := by
  constructor
  · rw [heq, h.result]
  · rw [heq, h.state]
  · rw [heq]
    exact h.gains

/-- What goes on from another step has the events and lines of both. -/
theorem append {g' : Act σ β} (h : Retraces E f w a es lines)
    (h' : Retraces E g (f w).2 b es' lines') (heq : g' w = g (f w).2) :
    Retraces E g' w b (es ++ es') (lines ++ lines') := by
  constructor
  · rw [heq, h'.result]
  · rw [heq, h'.state, h.state, Environment.after_append]
  · rw [heq]
    exact h.gains.trans h'.gains

end Retraces

/-- Something has become of a world, and the step does the same wherever it gets the same
answers. -/
def RepeatedBy (E' : Environment σ') (f' : Act σ' α) (w : World σ) (r : α × World σ) : Prop :=
  ∃ es lines, World.Gains w r.2 es lines ∧
    ∀ w', E'.Follows w'.state es → Retraces E' f' w' r.1 es lines

/-- Whatever the one step does, the other step does it too, wherever it gets the same answers. -/
def Repeats (E' : Environment σ') (f : Act σ α) (f' : Act σ' α) : Prop :=
  ∀ w, RepeatedBy E' f' w (f w)

namespace RepeatedBy

variable {f' : Act σ' α} {g' k' : Act σ' β} {w : World σ} {r : α × World σ} {r' : β × World σ}

/-- A step that is another one wherever that comes to the same. -/
theorem of_eq {k' : Act σ' α} (h : RepeatedBy E' f' w r)
    (heq : ∀ w', (f' w').1 = r.1 → k' w' = f' w') : RepeatedBy E' k' w r := by
  obtain ⟨es, lines, hgains, hf⟩ := h
  refine ⟨es, lines, hgains, fun w' hfollows => ?_⟩
  have hfirst := hf w' hfollows
  exact hfirst.of_eq (heq w' hfirst.result)

/-- A step that goes on from another one wherever that comes to the same. -/
theorem append (h : RepeatedBy E' f' w r) (h' : RepeatedBy E' g' r.2 r')
    (heq : ∀ w', (f' w').1 = r.1 → k' w' = g' (f' w').2) : RepeatedBy E' k' w r' := by
  obtain ⟨es, lines, hgains, hf⟩ := h
  obtain ⟨es', lines', hgains', hg⟩ := h'
  refine ⟨es ++ es', lines ++ lines', hgains.trans hgains', fun w' hfollows => ?_⟩
  rw [Environment.follows_append] at hfollows
  have hfirst := hf w' hfollows.1
  have hsecond := hg (f' w').2 (by rw [hfirst.state]; exact hfollows.2)
  exact hfirst.append hsecond (heq w' hfirst.result)

end RepeatedBy

namespace Repeats

/-- A step that neither makes operations nor logs. -/
theorem of_still {f : Act σ α} {f' : Act σ' α} (hgains : ∀ w, World.Gains w (f w).2 [] [])
    (h : ∀ w w', Retraces E' f' w' (f w).1 [] []) : Repeats E' f f' :=
  fun w => ⟨[], [], hgains w, fun w' _ => h w w'⟩

theorem pure (a : α) : Repeats E' (Pure.pure a : Act σ α) (Pure.pure a) :=
  of_still (fun w => .refl w) fun _ w' => ⟨rfl, rfl, .refl w'⟩

theorem bind {f : Act σ α} {f' : Act σ' α} {g : α → Act σ β} {g' : α → Act σ' β}
    (hf : Repeats E' f f') (hg : ∀ a, Repeats E' (g a) (g' a)) :
    Repeats E' (f >>= g) (f' >>= g') :=
  fun w => (hf w).append (hg (f w).1 (f w).2) fun _ hresult => by rw [← hresult]; rfl

theorem record (lines : List LogLine) :
    Repeats E' (modify (·.record lines) : Act σ Unit) (modify (·.record lines)) :=
  fun _ => ⟨[], lines, ⟨rfl, rfl⟩, fun _ _ => ⟨rfl, rfl, ⟨rfl, rfl⟩⟩⟩

theorem perform (op : Op) :
    Repeats E' (SecureStream.perform E op) (SecureStream.perform E' op) := by
  intro w
  refine ⟨[⟨op, (E.answer op w.state).1⟩], [], ⟨rfl, rfl⟩, fun w' hfollows => ?_⟩
  have ha : (E'.answer op w'.state).1 = (E.answer op w.state).1 :=
    ((Environment.follows_cons E').mp hfollows).1
  refine ⟨ha, rfl, ?_, rfl⟩
  change ⟨op, (E'.answer op w'.state).1⟩ :: w'.past = ⟨op, (E.answer op w.state).1⟩ :: w'.past
  rw [ha]

/-- An operation that is made again while it is interrupted. -/
theorem persist (op : Op) :
    Repeats E' (SecureStream.persist E op) (SecureStream.persist E' op) := by
  have honce : Repeats E' (SecureStream.perform E op) (SecureStream.perform E' op) := perform op
  refine Retry.run_induction (P := RepeatedBy E' (SecureStream.persist E' op))
    (bounded_perform E op) (fun w hdecisive => (honce w).of_eq fun w' hresult => ?_)
    fun w r htransient hrest => (honce w).append hrest fun w' hresult => ?_
  · rw [← hresult] at hdecisive
    exact Retry.run_eq_of_decisive (bounded_perform E' op) hdecisive
  · rw [← hresult] at htransient
    exact Retry.run_eq_of_transient (bounded_perform E' op) htransient

end Repeats

namespace Pending

/-- One attempt at a handshake: how it ended, and what the verifier knows then. -/
def attemptOnce (E : Environment σ) (socket : Socket) (request : Tls.Request) (v : Verifier) :
    Act σ (Except Tls.Failure Tls.Negotiated × Verifier) := do
  let a ← perform E (.handshake socket request v)
  modify (·.record (v.observe a.calls).1)
  return (a.outcome, (v.observe a.calls).2)

section

variable {socket : Socket} {request : Tls.Request} {v : Verifier} {w : World σ}

theorem attempts_of_decided (h : isInterrupted (attemptOnce E socket request v w).1.1 = false) :
    attempts E socket request v w = attemptOnce E socket request v w := by
  have hrun := Retry.run_eq_of_decisive (bounded_attemptHandshake E socket request)
    (s := (w, v)) h
  rw [attempts, hrun]
  rfl

theorem attempts_of_interrupted (h : isInterrupted (attemptOnce E socket request v w).1.1 = true) :
    attempts E socket request v w = attempts E socket request (attemptOnce E socket request v w).1.2
      (attemptOnce E socket request v w).2 := by
  have hrun := Retry.run_eq_of_transient (bounded_attemptHandshake E socket request)
    (s := (w, v)) h
  rw [attempts, hrun]
  rfl

end

theorem repeats_attempts (socket : Socket) (request : Tls.Request) (v : Verifier) :
    Repeats E' (attempts E socket request v) (attempts E' socket request v) := by
  have honce (v : Verifier) :
      Repeats E' (attemptOnce E socket request v) (attemptOnce E' socket request v) :=
    (Repeats.perform _).bind fun _ => (Repeats.record _).bind fun _ => .pure _
  intro w
  refine Retry.run_induction (P := fun (x : World σ × Verifier) r =>
      RepeatedBy E' (attempts E' socket request x.2) x.1 ((r.1, r.2.2), r.2.1))
    (bounded_attemptHandshake E socket request)
    (fun ⟨w, v⟩ hdecided => (honce v w).of_eq fun w' hresult => attempts_of_decided ?_)
    (fun ⟨w, v⟩ r hinterrupted hrest => (honce v w).append hrest fun w' hresult => ?_) (w, v)
  · rw [hresult]
    exact hdecided
  · rw [attempts_of_interrupted (by rw [hresult]; exact hinterrupted), hresult]
    rfl

end Pending

/-! ## Clients -/

/-- Steps that do the same where they get the same answers are put together from such steps. -/
theorem repeats_comparesAll (E : Environment σ) (E' : Environment σ') :
    ComparesAll E E' fun _ => Repeats E' where
  pure := .pure
  bind := .bind
  record := .record
  persist op _ := .persist op
  count _ := .of_still (fun _ => ⟨rfl, rfl⟩) fun _ _ => ⟨rfl, rfl, ⟨rfl, rfl⟩⟩
  announce _ := .perform _
  attempts := Pending.repeats_attempts

/-- **A client does the same where it gets the same answers.** -/
theorem Client.repeats_answer (E : Environment σ) (E' : Environment σ') (c : Client) (call : Call) :
    Repeats E' (c.answer E call) (c.answer E' call) :=
  (repeats_comparesAll E E').answer c call

end SecureStream
