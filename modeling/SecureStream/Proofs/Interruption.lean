import SecureStream.Proofs.Halting
import SecureStream.Proofs.Simulation

/-!
# Interruptions

An operation that was interrupted is made again, so nobody notices. Two environments are compared
which differ only in that the second one interrupts more often.

* `Environment.shake`, `Interrupts`: what the second environment does to the first one;
* `effects`: events with no regard to interruptions;
* `Alike`, **`Interrupts.simulates`**: worlds of both environments that clients cannot tell apart;
* `Undisturbed`, **`conversation_undisturbed`**: what an interruption does not change;
* `Interruption`, `Environment.interrupted`, **`interrupts_interrupted`**: any environment with any
  interruptions put in.
-/

namespace SecureStream

variable {σ σ' : Type}

/-! ## More interruptions -/

/-- The operation is an attempt at a handshake. -/
def Op.isHandshake : Op → Bool
  | handshake _ _ _ => true
  | _ => false

theorem Op.not_isHandshake_of_isOrdinary {op : Op} (h : op.isOrdinary = true) :
    op.isHandshake = false := by
  cases op with
  | handshake => exact nomatch h
  | _ => rfl

/-- One attempt at a handshake that a verifier has begun, with the calls that have been made of it:
those before the attempt, and then those up to its end. -/
def Environment.shake (E : Environment σ) (socket : Socket) (request : Tls.Request) (v : Verifier)
    (x : σ × List Callback) : Except Tls.Failure Tls.Negotiated × (σ × List Callback) :=
  let (a, s) := E.answer (.handshake socket request (v.observe x.2).2) x.1
  (a.outcome, (s, x.2 ++ a.calls))

/-- The second environment gives the answers of the first, but may interrupt an operation before. A
handshake may be interrupted between any two calls of the verifier. -/
structure Interrupts (E : Environment σ) (E' : Environment σ') (Same : σ → σ' → Prop) : Prop where
  answer : ∀ op s s', op.isHandshake = false → Same s s' →
    Reaches (E'.answer op) op.isTransient
      (fun r => r.1 = (E.answer op s).1 ∧ Same (E.answer op s).2 r.2) s'
  handshake : ∀ socket request v s s', Same s s' →
    Reaches (E'.shake socket request v) Pending.isInterrupted
      (fun r => r.1 = (E.shake socket request v (s, [])).1 ∧
        r.2.2 = (E.shake socket request v (s, [])).2.2 ∧
        Same (E.shake socket request v (s, [])).2.1 r.2.1) (s', [])

/-! ## Events with no regard to interruptions -/

namespace Event

/-- The event with no regard to what the verifier was asked in it and before. -/
def effect : Event → Event
  | ⟨.handshake s request v, a⟩ =>
    ⟨.handshake s request (.fresh v.serverName v.policy), ⟨[], a.outcome⟩⟩
  | ev => ev

theorem accepted_effect (ev : Event) : ev.effect.accepted = ev.accepted := by
  obtain ⟨op, a⟩ := ev
  cases op <;> rfl

end Event

/-- The events that were not interrupted, with no regard to how the calls of a verifier are spread
over the attempts at a handshake. -/
def effects (es : List Event) : List Event := (es.filter (!·.isInterruption)).map Event.effect

@[simp] theorem effects_nil : effects [] = [] := rfl

@[simp] theorem effects_append (es es' : List Event) :
    effects (es ++ es') = effects es ++ effects es' := by
  rw [effects, List.filter_append, List.map_append]
  rfl

theorem effects_of_isInterruption {ev : Event} (h : ev.isInterruption = true) :
    effects [ev] = [] := by
  simp [effects, h]

/-- Attempts at a handshake with the same outcome have the same effect. -/
theorem effects_handshake (s : Socket) (request : Tls.Request) {v v' : Verifier}
    {a a' : Tls.Attempt} (hv : v'.serverName = v.serverName ∧ v'.policy = v.policy)
    (ha : a'.outcome = a.outcome) :
    effects [⟨.handshake s request v', a'⟩] = effects [⟨.handshake s request v, a⟩] := by
  have hinterruption : (Event.mk (.handshake s request v') a').isInterruption =
      (Event.mk (.handshake s request v) a).isInterruption := by
    simp only [Event.isInterruption, Op.isTransient, ha]
  unfold effects
  cases hi : (Event.mk (.handshake s request v) a).isInterruption with
  | true => simp [hi, hinterruption]
  | false => simp [hi, hinterruption, Event.effect, hv.1, hv.2, ha]

/-- Bytes that are taken are an effect. -/
theorem accepted_effects (es : List Event) : accepted (effects es) = accepted es := by
  induction es with
  | nil => rfl
  | cons ev es ih =>
    cases hi : ev.isInterruption with
    | true => simpa [effects, hi, Event.accepted_of_isInterruption hi] using ih
    | false => simpa [effects, hi, Event.accepted_effect] using ih

/-! ## Worlds that look alike -/

section

variable {E : Environment σ} {E' : Environment σ'} {Same Same' : σ → σ' → Prop}

/-- The worlds are alike for clients. -/
structure Alike (Same : σ → σ' → Prop) (w : World σ) (w' : World σ') : Prop where
  state : Same w.state w'.state
  openSessions : w'.openSessions = w.openSessions
  lines : w'.lines = w.lines

/-- The worlds are alike, and so is what has happened since they were others. -/
structure AlikeSince (Same : σ → σ' → Prop) (w₀ : World σ) (w₀' : World σ') (w : World σ)
    (w' : World σ') : Prop extends Alike Same w w' where
  events : ∃ es es', w.past = es.reverse ++ w₀.past ∧ w'.past = es'.reverse ++ w₀'.past ∧
    effects es' = effects es

/-- The same in the midst of a handshake, the verifiers knowing the same. -/
def AlikeWith (Same : σ → σ' → Prop) (w₀ : World σ) (w₀' : World σ') (x : World σ × Verifier)
    (y : World σ' × Verifier) : Prop :=
  AlikeSince Same w₀ w₀' x.1 y.1 ∧ y.2 = x.2

theorem Alike.since {w : World σ} {w' : World σ'} (h : Alike Same w w') :
    AlikeSince Same w w' w w' := ⟨h, [], [], rfl, rfl, rfl⟩

namespace AlikeSince

variable {w₀ w : World σ} {w₀' w' : World σ'}

theorem effects_since (h : AlikeSince Same w₀ w₀' w w') :
    effects (w'.since w₀') = effects (w.since w₀) := by
  obtain ⟨es, es', hpast, hpast', heffects⟩ := h.events
  rw [World.since_eq hpast, World.since_eq hpast', heffects]

theorem record (h : AlikeSince Same w₀ w₀' w w') (lines : List LogLine) :
    AlikeSince Same w₀ w₀' (w.record lines) (w'.record lines) where
  state := h.state
  openSessions := h.openSessions
  lines := congrArg (lines.reverse ++ ·) h.lines
  events := h.events

/-- An interruption is no difference. -/
theorem interrupted (h : AlikeSince Same w₀ w₀' w w') {op : Op}
    (hop : op.isTransient (E'.answer op w'.state).1 = true)
    (hsame : Same' w.state (E'.answer op w'.state).2) :
    AlikeSince Same' w₀ w₀' w (perform E' op w').2 := by
  obtain ⟨es, es', hpast, hpast', heffects⟩ := h.events
  refine ⟨⟨hsame, h.openSessions, h.lines⟩, es, es' ++ [⟨op, (E'.answer op w'.state).1⟩], hpast,
    ?_, ?_⟩
  · rw [List.reverse_append, List.append_assoc, ← hpast']
    rfl
  · have heffect : effects [⟨op, (E'.answer op w'.state).1⟩] = [] := effects_of_isInterruption hop
    rw [effects_append, heffect, List.append_nil, heffects]

/-- Nor are operations with the same effect. -/
theorem perform (h : AlikeSince Same w₀ w₀' w w') {op op' : Op}
    (heffect : effects [⟨op', (E'.answer op' w'.state).1⟩] =
      effects [⟨op, (E.answer op w.state).1⟩])
    (hsame : Same' (E.answer op w.state).2 (E'.answer op' w'.state).2) :
    AlikeSince Same' w₀ w₀' (SecureStream.perform E op w).2
      (SecureStream.perform E' op' w').2 := by
  obtain ⟨es, es', hpast, hpast', heffects⟩ := h.events
  refine ⟨⟨hsame, h.openSessions, h.lines⟩, es ++ [⟨op, (E.answer op w.state).1⟩],
    es' ++ [⟨op', (E'.answer op' w'.state).1⟩], ?_, ?_, ?_⟩
  · rw [List.reverse_append, List.append_assoc, ← hpast]
    rfl
  · rw [List.reverse_append, List.append_assoc, ← hpast']
    rfl
  · rw [effects_append, effects_append, heffects, heffect]

end AlikeSince

/-- What a verifier makes of calls, it makes of them one part after the other. -/
theorem Verifier.observe_append (v : Verifier) (calls calls' : List Callback) :
    (v.observe (calls ++ calls')).1 =
        (v.observe calls).1 ++ ((v.observe calls).2.observe calls').1 ∧
      (v.observe (calls ++ calls')).2 = ((v.observe calls).2.observe calls').2 := by
  induction calls generalizing v with
  | nil => exact ⟨rfl, rfl⟩
  | cons call calls ih =>
    obtain ⟨hlines, hverifier⟩ := ih (v.check call).2.2
    refine ⟨?_, hverifier⟩
    change (v.check call).2.1 ++ ((v.check call).2.2.observe (calls ++ calls')).1 = _
    rw [hlines, ← List.append_assoc]
    rfl

theorem World.record_record (w : World σ) (lines lines' : List LogLine) :
    (w.record lines).record lines' = w.record (lines ++ lines') := by
  simp [record]

namespace Interrupts

variable {w₀ : World σ} {w₀' : World σ'}

theorem reaches_perform (h : Interrupts E E' Same) {op : Op} (hop : op.isHandshake = false)
    {w : World σ} {w' : World σ'} (hw : AlikeSince Same w₀ w₀' w w') :
    Reaches (perform E' op) op.isTransient
      (fun r => r.1 = (perform E op w).1 ∧ AlikeSince Same w₀ w₀' (perform E op w).2 r.2) w' := by
  refine (h.answer op w.state w'.state hop hw.state).of_step
    (Q := fun s w₁ => AlikeSince (fun _ s₁ => s₁ = s) w₀ w₀' w w₁)
    (fun s w₁ hw₁ => ?_) (fun s w₁ hw₁ htransient => ?_) (fun s w₁ hw₁ hr => ?_)
    ⟨⟨rfl, hw.openSessions, hw.lines⟩, hw.events⟩
  · rw [← hw₁.state]
    rfl
  · obtain rfl := hw₁.state
    exact hw₁.interrupted htransient rfl
  · obtain rfl := hw₁.state
    refine ⟨hr.1, hw₁.perform ?_ hr.2⟩
    rw [hr.1]

/-- Where the second environment stands between two attempts at a handshake: it has logged what the
verifier has made of the calls so far. -/
inductive Shaking (v : Verifier) (w₀ : World σ) (w₀' : World σ') (w : World σ) :
    σ' × List Callback → World σ' × Verifier → Prop
  | intro (calls w₁) : AlikeSince (fun _ _ => True) w₀ w₀' (w.record (v.observe calls).1) w₁ →
    Shaking v w₀ w₀' w (w₁.state, calls) (w₁, (v.observe calls).2)

theorem reaches_attemptHandshake (h : Interrupts E E' Same) (socket : Socket)
    (request : Tls.Request) (v : Verifier) {w : World σ} {w' : World σ'}
    (hw : AlikeSince Same w₀ w₀' w w') :
    Reaches (Pending.attemptHandshake E' socket request) Pending.isInterrupted
      (fun r => r.1 = (Pending.attemptHandshake E socket request (w, v)).1 ∧
        AlikeSince Same w₀ w₀' (Pending.attemptHandshake E socket request (w, v)).2.1 r.2.1 ∧
        r.2.2 = (Pending.attemptHandshake E socket request (w, v)).2.2) (w', v) := by
  refine (h.handshake socket request v w.state w'.state hw.state).of_step
    (Q := Shaking v w₀ w₀' w) ?_ ?_ ?_
    (.intro [] w' ⟨⟨trivial, hw.openSessions, hw.lines⟩, hw.events⟩)
  · rintro _ _ ⟨calls, w₁, -⟩
    rfl
  · rintro _ _ ⟨calls, w₁, hw₁⟩ htransient
    let op : Op := .handshake socket request (v.observe calls).2
    obtain ⟨hlines, hverifier⟩ := v.observe_append calls (E'.answer op w₁.state).1.calls
    have hlater : AlikeSince (fun _ _ => True) w₀ w₀' (w.record (v.observe calls).1)
        (perform E' op w₁).2 := hw₁.interrupted htransient trivial
    have hrecord := hlater.record ((v.observe calls).2.observe (E'.answer op w₁.state).1.calls).1
    rw [World.record_record, ← hlines] at hrecord
    have hshaking := Shaking.intro _ _ hrecord
    rw [hverifier] at hshaking
    exact hshaking
  · rintro _ _ ⟨calls, w₁, hw₁⟩ ⟨houtcome, hcalls, hsame⟩
    let op : Op := .handshake socket request (v.observe calls).2
    obtain ⟨hlines, hverifier⟩ := v.observe_append calls (E'.answer op w₁.state).1.calls
    have hv : (v.observe calls).2.serverName = v.serverName ∧
        (v.observe calls).2.policy = v.policy := by
      rw [Verifier.observe_eq]
      exact ⟨rfl, rfl⟩
    change calls ++ (E'.answer op w₁.state).1.calls =
      [] ++ (E.answer (.handshake socket request v) w.state).1.calls at hcalls
    rw [hcalls, List.nil_append] at hlines hverifier
    have hlast : AlikeSince Same w₀ w₀' ((perform E (.handshake socket request v) w).2.record
        (v.observe calls).1) (perform E' op w₁).2 :=
      hw₁.perform (effects_handshake socket request hv houtcome) hsame
    have hrecord := hlast.record ((v.observe calls).2.observe (E'.answer op w₁.state).1.calls).1
    rw [World.record_record, ← hlines] at hrecord
    exact ⟨houtcome, hrecord, hverifier.symm⟩

theorem persist_agree (h : Interrupts E E' Same) {op : Op} (hop : op.isHandshake = false) :
    Agree (AlikeSince Same w₀ w₀') (persist E op) (persist E' op) :=
  fun _ _ hw => run_eq_of_reaches (bounded_perform E op) (bounded_perform E' op)
    (fun _ _ hw => h.reaches_perform hop hw) hw

/-- **Worlds that are alike stay so, whatever clients do.** -/
theorem simulates (h : Interrupts E E' Same) (w₀ : World σ) (w₀' : World σ') :
    Simulates E E' (AlikeSince Same w₀ w₀') where
  record lines _ _ hw := hw.record lines
  count g _ _ hw := ⟨⟨hw.state, congrArg g hw.openSessions, hw.lines⟩, hw.events⟩
  persist op hop := h.persist_agree (Op.not_isHandshake_of_isOrdinary hop)
  announce s := by
    have hsteady : (Op.tlsShutdown s).IsSteady := fun _ => rfl
    rw [← persist_eq_perform E hsteady, ← persist_eq_perform E' hsteady]
    exact h.persist_agree rfl
  attempts socket request v w w' hw := by
    have hstart : AlikeWith Same w₀ w₀' (w, v) (w', v) := ⟨hw, rfl⟩
    obtain ⟨ho, hw, hv⟩ := run_eq_of_reaches (R := AlikeWith Same w₀ w₀')
      (Pending.bounded_attemptHandshake E socket request)
      (Pending.bounded_attemptHandshake E' socket request)
      (by
        rintro ⟨w, v⟩ ⟨w', _⟩ ⟨hw, rfl⟩
        exact h.reaches_attemptHandshake socket request _ hw) hstart
    exact ⟨ho, hv.symm, hw⟩

end Interrupts

end

/-! ## Any interruptions -/

/-- An interruption, as a plain connection and as the TLS library tell of it. In a handshake it
comes after some calls of the verifier. -/
structure Interruption where
  error : SystemError
  failure : Tls.Failure
  calls : Nat
  error_isTransient : error.isTransient = true
  failure_isTransient : failure.isTransient = true

/-- What an operation other than a handshake is answered with if it is interrupted. -/
def Interruption.answer? (i : Interruption) : (op : Op) → Option op.Answer
  | .read _ _ | .write _ _ => some (.error i.error)
  | .tlsRead _ _ | .tlsWrite _ _ => some (.error i.failure)
  | _ => none

theorem Interruption.isTransient_answer {i : Interruption} {op : Op} {a : op.Answer}
    (h : i.answer? op = some a) : op.isTransient a = true := by
  cases op with
  | read | write =>
    rw [← Option.some.inj h]
    exact i.error_isTransient
  | tlsRead | tlsWrite =>
    rw [← Option.some.inj h]
    exact i.failure_isTransient
  | _ => exact nomatch h

/-- An environment's state with the interruptions of the operations to come, each of which is let
pass or interrupted. Of a handshake that was interrupted it is known which verifier it began with,
and how many calls have been made since. -/
structure Interrupted (σ : Type) where
  state : σ
  schedule : List (Option Interruption)
  begun : Option (Verifier × Nat)

namespace Interrupted

/-- The interruption that is due. -/
def next? (x : Interrupted σ) : Option Interruption := x.schedule.head?.join

theorem length_tail_lt {x : Interrupted σ} {i : Interruption} (h : x.next? = some i) :
    x.schedule.tail.length < x.schedule.length := by
  cases hschedule : x.schedule with
  | nil => rw [next?, hschedule] at h; exact nomatch h
  | cons o rest => exact Nat.lt_succ_self rest.length

variable (E : Environment σ)

/-- A handshake goes on with the calls that have not been made. -/
def handshake (x : Interrupted σ) (socket : Socket) (request : Tls.Request) (v : Verifier) :
    Tls.Attempt × Interrupted σ :=
  let (v, made) := x.begun.getD (v, 0)
  let (a, s) := E.answer (.handshake socket request v) x.state
  match x.next? with
  | some i => (⟨(a.calls.drop made).take i.calls, .error i.failure⟩,
      ⟨x.state, x.schedule.tail, some (v, made + i.calls)⟩)
  | none => (⟨a.calls.drop made, a.outcome⟩, ⟨s, x.schedule.tail, none⟩)

/-- Any other operation. -/
def pass (x : Interrupted σ) (op : Op) : op.Answer × Interrupted σ :=
  match x.next?.bind (·.answer? op) with
  | some a => (a, { x with schedule := x.schedule.tail })
  | none =>
    let (a, s) := E.answer op x.state
    (a, ⟨s, x.schedule.tail, none⟩)

/-- The answer to each operation. -/
def answer : (op : Op) → Interrupted σ → op.Answer × Interrupted σ
  | .handshake socket request v, x => x.handshake E socket request v
  | op, x => x.pass E op

section

variable {E} {x : Interrupted σ} {op : Op} {v v₀ : Verifier} {made : Nat} {i : Interruption}
  (socket : Socket) (request : Tls.Request)

theorem pass_of_some {a : op.Answer} (h : x.next?.bind (·.answer? op) = some a) :
    x.pass E op = (a, { x with schedule := x.schedule.tail }) := by
  rw [pass, h]

theorem pass_of_none (h : x.next?.bind (·.answer? op) = none) :
    x.pass E op =
      ((E.answer op x.state).1, ⟨(E.answer op x.state).2, x.schedule.tail, none⟩) := by
  rw [pass, h]

theorem handshake_of_some (hbegun : x.begun.getD (v, 0) = (v₀, made)) (hi : x.next? = some i) :
    x.handshake E socket request v =
      (⟨((E.answer (.handshake socket request v₀) x.state).1.calls.drop made).take i.calls,
        .error i.failure⟩, ⟨x.state, x.schedule.tail, some (v₀, made + i.calls)⟩) := by
  rw [handshake, hbegun, hi]

theorem handshake_of_none (hbegun : x.begun.getD (v, 0) = (v₀, made)) (hi : x.next? = none) :
    x.handshake E socket request v =
      (⟨(E.answer (.handshake socket request v₀) x.state).1.calls.drop made,
        (E.answer (.handshake socket request v₀) x.state).1.outcome⟩,
        ⟨(E.answer (.handshake socket request v₀) x.state).2, x.schedule.tail, none⟩) := by
  rw [handshake, hbegun, hi]

end

theorem answer_of_not_isHandshake {op : Op} (hop : op.isHandshake = false) (x : Interrupted σ) :
    answer E op x = x.pass E op := by
  cases op with
  | handshake => exact nomatch hop
  | _ => rfl

/-- The interruptions that are still to come, on either side. -/
def patience (x : Interrupted σ) : Nat := E.patience x.state + x.schedule.length

theorem patience_lt (op : Op) (x : Interrupted σ) (h : op.isTransient (answer E op x).1 = true) :
    patience E (answer E op x).2 < patience E x := by
  have htail : x.schedule.tail.length ≤ x.schedule.length := by
    rw [List.length_tail]
    exact Nat.sub_le _ _
  cases hop : op.isHandshake with
  | true =>
    cases op with
    | handshake socket request v =>
      rcases hbegun : x.begun.getD (v, 0) with ⟨v₀, made⟩
      change Op.isTransient (.handshake socket request v)
        (x.handshake E socket request v).1 = true at h
      change patience E (x.handshake E socket request v).2 < _
      cases hi : x.next? with
      | some i =>
        rw [handshake_of_some socket request hbegun hi]
        exact Nat.add_lt_add_left (length_tail_lt hi) _
      | none =>
        rw [handshake_of_none socket request hbegun hi] at h ⊢
        exact Nat.add_lt_add_of_lt_of_le (E.patience_lt (.handshake socket request v₀) _ h) htail
    | _ => exact nomatch hop
  | false =>
    rw [answer_of_not_isHandshake E hop] at h ⊢
    cases hi : x.next?.bind (·.answer? op) with
    | some a =>
      obtain ⟨i, hnext, -⟩ := Option.bind_eq_some_iff.mp hi
      rw [pass_of_some hi]
      exact Nat.add_lt_add_left (length_tail_lt hnext) _
    | none =>
      rw [pass_of_none hi] at h ⊢
      exact Nat.add_lt_add_of_lt_of_le (E.patience_lt op _ h) htail

end Interrupted

/-- The environment with interruptions put in. -/
def Environment.interrupted (E : Environment σ) : Environment (Interrupted σ) :=
  ⟨Interrupted.answer E, Interrupted.patience E, Interrupted.patience_lt E⟩

namespace Interrupted

variable (E : Environment σ)

theorem reaches_answer {op : Op} (hop : op.isHandshake = false) (x : Interrupted σ)
    (hbegun : x.begun = none) : Reaches (answer E op) op.isTransient
      (fun r => r.1 = (E.answer op x.state).1 ∧
        r.2.state = (E.answer op x.state).2 ∧ r.2.begun = none) x := by
  rcases hi : x.next?.bind (·.answer? op) with _ | a
  · refine .now ?_
    rw [answer_of_not_isHandshake E hop, pass_of_none hi]
    exact ⟨rfl, rfl, rfl⟩
  · obtain ⟨i, hnext, ha⟩ := Option.bind_eq_some_iff.mp hi
    have hlt := length_tail_lt hnext
    have hlater := reaches_answer hop { x with schedule := x.schedule.tail } hbegun
    refine .later ?_ ?_ <;> rw [answer_of_not_isHandshake E hop, pass_of_some hi]
    · exact i.isTransient_answer ha
    · exact hlater
termination_by x.schedule.length

theorem reaches_shake (socket : Socket) (request : Tls.Request) (v : Verifier) {a : Tls.Attempt}
    {s s' : σ} (ha : E.answer (.handshake socket request v) s = (a, s')) (x : Interrupted σ)
    (made : Nat) (hs : x.state = s)
    (hbegun : x.begun.getD ((v.observe (a.calls.take made)).2, 0) = (v, made)) :
    Reaches (E.interrupted.shake socket request v) Pending.isInterrupted
      (fun r => r.1 = a.outcome ∧ r.2.2 = a.calls ∧ r.2.1.state = s' ∧ r.2.1.begun = none)
      (x, a.calls.take made) := by
  subst hs
  cases hi : x.next? with
  | none =>
    have hattempt := handshake_of_none (E := E) socket request hbegun hi
    rw [ha] at hattempt
    refine .now ?_
    change (x.handshake E socket request _).1.outcome = _ ∧
      a.calls.take made ++ (x.handshake E socket request _).1.calls = _ ∧
      (x.handshake E socket request _).2.state = _ ∧ (x.handshake E socket request _).2.begun = _
    rw [hattempt]
    exact ⟨rfl, List.take_append_drop made a.calls, rfl, rfl⟩
  | some i =>
    have hattempt := handshake_of_some (E := E) socket request hbegun hi
    rw [ha] at hattempt
    have hlt := length_tail_lt hi
    -- The calls up to the interruption are those before it and those made in the attempt.
    have hlater := reaches_shake socket request v ha
      ⟨x.state, x.schedule.tail, some (v, made + i.calls)⟩ (made + i.calls) rfl rfl
    rw [List.take_add] at hlater
    refine .later ?_ ?_
    · change Pending.isInterrupted (x.handshake E socket request _).1.outcome = true
      rw [hattempt]
      exact i.failure_isTransient
    · change Reaches _ _ _ ((x.handshake E socket request _).2,
        a.calls.take made ++ (x.handshake E socket request _).1.calls)
      rw [hattempt]
      exact hlater
termination_by x.schedule.length

end Interrupted

/-- **Interruptions may be put in anywhere.** -/
theorem interrupts_interrupted (E : Environment σ) :
    Interrupts E E.interrupted fun s x => x.state = s ∧ x.begun = none where
  answer op s x hop := by
    rintro ⟨rfl, hbegun⟩
    exact x.reaches_answer E hop hbegun
  handshake socket request v s x := by
    rintro ⟨rfl, hbegun⟩
    refine x.reaches_shake E socket request v (s := x.state) rfl 0 rfl ?_
    rw [hbegun]
    rfl

/-! ## All calls -/

section

variable {E : Environment σ} {E' : Environment σ'} {Same : σ → σ' → Prop}

/-- The exchange with no regard to interruptions. -/
def Exchange.settled (x : Exchange) : Exchange := { x with events := effects x.events }

/-- What has passed with a client is the same with no regard to interruptions: the state of the
client, what was asked of it and answered by it, and what was done. -/
structure Conversation.Alike (t t' : Conversation) : Prop where
  client : t'.client = t.client
  exchanges : t'.exchanges.map Exchange.settled = t.exchanges.map Exchange.settled

theorem Conversation.Alike.accepted_eq {t t' : Conversation} (h : t.Alike t') :
    accepted t'.events = accepted t.events := by
  have hsettled (t : Conversation) : accepted t.events =
      accepted ((t.exchanges.map Exchange.settled).flatMap Exchange.events) := by
    rw [events, accepted, accepted, List.flatMap_assoc, List.flatMap_assoc, List.flatMap_map]
    exact List.flatMap_congr fun x _ => (accepted_effects x.events).symm
  rw [hsettled, hsettled, h.exchanges]

theorem Interrupts.ask (h : Interrupts E E' Same) {t t' : Conversation} (ht : t.Alike t')
    {w : World σ} {w' : World σ'} (hw : Alike Same w w') (call : Call) :
    (t.ask E call w).1.Alike (t'.ask E' call w').1 ∧
      Alike Same (t.ask E call w).2 (t'.ask E' call w').2 := by
  obtain ⟨_, exchanges⟩ := t
  obtain ⟨c, exchanges'⟩ := t'
  obtain ⟨rfl, hexchanges⟩ := ht
  obtain ⟨hreply, hw⟩ := (h.simulates w w').answer c call w w' hw.since
  have hsettled : Exchange.settled
      ⟨call, (c.answer E' call w').1.1, (c.answer E' call w').2.since w'⟩ =
        Exchange.settled ⟨call, (c.answer E call w).1.1, (c.answer E call w).2.since w⟩ := by
    rw [Exchange.settled, Exchange.settled, hw.effects_since, hreply]
  refine ⟨⟨(congrArg Prod.snd hreply).symm, ?_⟩, hw.toAlike⟩
  change (exchanges' ++ [_]).map _ = (exchanges ++ [_]).map _
  rw [List.map_append, List.map_append, hexchanges]
  exact congrArg (_ ++ [·]) hsettled

section

variable {κ : Type} [DecidableEq κ]

theorem Interrupts.converse (h : Interrupts E E' Same) {talks talks' : κ → Conversation}
    (htalks : ∀ k, (talks k).Alike (talks' k)) (calls : List (κ × Call)) {w : World σ}
    {w' : World σ'} (hw : Alike Same w w') :
    (∀ k, ((converse E talks calls w).1 k).Alike ((converse E' talks' calls w').1 k)) ∧
      Alike Same (converse E talks calls w).2 (converse E' talks' calls w').2 := by
  induction calls generalizing talks talks' w w' with
  | nil => exact ⟨htalks, hw⟩
  | cons kc calls ih =>
    obtain ⟨k, call⟩ := kc
    obtain ⟨ht, hw⟩ := h.ask (htalks k) hw call
    refine ih (fun k' => ?_) hw
    by_cases hk : k' = k
    · subst hk
      rw [Function.update_self, Function.update_self]
      exact ht
    · rw [Function.update_of_ne hk, Function.update_of_ne hk]
      exact htalks k'

/-- Interruptions have not been noticed, and nothing else has been made up for. -/
structure Undisturbed (t t' : Conversation) : Prop extends t.Alike t' where
  accepted : accepted t'.events = accepted t.events
  halts : ∀ x ∈ t'.exchanges, x.Halts

/-- **Whatever is asked of clients, interruptions change neither what they answer, nor what becomes
of them, nor what the peer gets, nor what is logged; and nothing but an interruption is made up
for.** -/
theorem conversation_undisturbed (h : Interrupts E E' Same) {clients : κ → Client} {k : κ}
    {endpoint : Endpoint} {context : Option Context}
    (hnew : Client.new endpoint context = .ok (clients k)) (calls : List (κ × Call)) {w : World σ}
    {w' : World σ'} (hw : Alike Same w w') :
    Undisturbed (conversation E clients calls w k) (conversation E' clients calls w' k) ∧
      (SecureStream.converse E' (fun k => .start (clients k)) calls w').2.log =
        (SecureStream.converse E (fun k => .start (clients k)) calls w).2.log := by
  obtain ⟨htalks, hw⟩ := h.converse (fun k => ⟨rfl, rfl⟩ : ∀ k,
    (Conversation.start (clients k)).Alike (.start (clients k))) calls hw
  refine ⟨⟨htalks k, (htalks k).accepted_eq, ?_⟩, congrArg List.reverse hw.lines⟩
  exact conversation_halts (Client.isNew_of_new hnew).coherent calls w'

/-- An interruption after one call of the verifier. -/
def Peer.Loopback.interruption : Interruption := ⟨.os 4, ⟨.wantRead, .unknown⟩, 1, rfl, rfl⟩

/-- The peer on this machine, with the next operations interrupted wherever that can be. -/
def Peer.Loopback.interrupted (script : List Peer.Entry) : Interrupted Peer.Network :=
  ⟨network script, List.replicate 16 (some interruption), none⟩

theorem conversation_undisturbed_loopback :
    Interrupts Peer.Network.environment Peer.Network.environment.interrupted
      (fun n x => x.state = n ∧ x.begun = none) ∧
    (Client.new Peer.Loopback.endpoint (some (Peer.Loopback.context .strict)) =
      .ok (Peer.Loopback.clients .strict true)) ∧
    Alike (fun n x => x.state = n ∧ x.begun = none) (.start (Peer.Loopback.network [.write [1, 2]]))
      (.start (Peer.Loopback.interrupted [.write [1, 2]])) ∧
    Undisturbed
      (conversation Peer.Network.environment (Peer.Loopback.clients .strict)
        [(true, .connect "first"), (true, .send [3]), (true, .recv [0, 0]), (true, .close)]
        (.start (Peer.Loopback.network [.write [1, 2]])) true)
      (conversation Peer.Network.environment.interrupted (Peer.Loopback.clients .strict)
        [(true, .connect "first"), (true, .send [3]), (true, .recv [0, 0]), (true, .close)]
        (.start (Peer.Loopback.interrupted [.write [1, 2]])) true) ∧
    (conversation Peer.Network.environment.interrupted (Peer.Loopback.clients .strict)
        [(true, .connect "first"), (true, .send [3]), (true, .recv [0, 0]), (true, .close)]
        (.start (Peer.Loopback.interrupted [.write [1, 2]])) true).events.countP
          (·.isInterruption) = 5 :=
  have hinterrupts := interrupts_interrupted Peer.Network.environment
  have hnew := Peer.Loopback.new_eq .strict true
  have hw : Alike (fun n x => x.state = n ∧ x.begun = none)
      (.start (Peer.Loopback.network [.write [1, 2]]))
      (.start (Peer.Loopback.interrupted [.write [1, 2]])) := ⟨⟨rfl, rfl⟩, rfl, rfl⟩
  ⟨hinterrupts, hnew, hw, (conversation_undisturbed hinterrupts hnew _ hw).1, by decide +kernel⟩

end

end

end SecureStream
