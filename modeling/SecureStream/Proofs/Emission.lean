import SecureStream.Environment

/-!
# What a step adds to the past

A step never takes back what has happened, nor what was logged. `Leaves E f P` says that from any
world the step `f` adds some events to the past, each of them answered by `E`, and logs some lines,
and that `P` holds of these events and lines and the result. `Emits E f P` is the same without the
lines.

* `Op.isRaw`, `Op.IsRecord`, `Op.IsOpening`: bytes on a plain connection, records of a session, and
  what opens a client;
* `Environment.Gives`: an event whose answer the environment may give;
* `World.since`, `World.Gains`: the events that have been added to an earlier world, and the lines;
* `Leaves`, with `Leaves.pure`, `Leaves.perform_bind`, `Leaves.bind`, `Leaves.bindE`: a step's
  events and lines, put together from those of its parts;
* `Emits`: a step's events, by the same rules;
* `Persisted`, `emits_persist`, `persist_settled`: an operation that is made until it is not
  interrupted;
* `EmitsOnly`: a step that makes no other operations than those of some kind.
-/

namespace SecureStream

/-! ## Kinds of operations -/

namespace Op

/-- The operation moves bytes over a plain connection. -/
def isRaw : Op → Bool
  | read _ _ | write _ _ => true
  | _ => false

/-- The operation reads or writes a record of the session on a socket. -/
def IsRecord (s : Socket) : Op → Prop
  | tlsRead s' _ | tlsWrite s' _ => s' = s
  | _ => False

/-- The operation sets something up in the TLS library. -/
def IsSetUp : Op → Prop
  | setUp _ | set _ => True
  | _ => False

/-- The operation looks for the peer, or connects to it. -/
def IsConnecting : Op → Prop
  | resolve _ _ | socket _ | noDelay _ | keepAlive _ _ | connect _ _ _ | readLimit _ _
  | writeLimit _ _ => True
  | _ => False

/-- The operation is one of opening a client: to set up, to connect, to shake hands, or to give
up. -/
def IsOpening : Op → Prop
  | duplicate _ | handshake _ _ _ | shutdown _ => True
  | op => op.IsSetUp ∨ op.IsConnecting

/-- The operation offers bytes to the peer. -/
def isWrite : Op → Bool
  | write _ _ | tlsWrite _ _ => true
  | _ => false

/-- The operation announces the end of a session. -/
def isTlsShutdown : Op → Bool
  | tlsShutdown _ => true
  | _ => false

theorem IsSetUp.isOpening {op : Op} (h : op.IsSetUp) : op.IsOpening := by
  cases op with
  | setUp | set => exact .inl h
  | _ => exact absurd h id

theorem IsConnecting.isOpening {op : Op} (h : op.IsConnecting) : op.IsOpening := by
  cases op with
  | resolve | socket | noDelay | keepAlive | connect | readLimit | writeLimit => exact .inr h
  | _ => exact absurd h id

end Op

/-! ## Places in a list -/

theorem not_split_nil {α : Type} {before after : List α} {x : α} : [] ≠ before ++ x :: after :=
  (List.append_ne_nil_of_right_ne_nil before (List.cons_ne_nil x after)).symm

/-- An element of a list with one element more is the last one, or one of the list. -/
theorem split_concat {α : Type} {l before after : List α} {x y : α}
    (h : l ++ [x] = before ++ y :: after) :
    (before = l ∧ y = x ∧ after = []) ∨
      ∃ after', after = after' ++ [x] ∧ l = before ++ y :: after' := by
  rcases List.eq_nil_or_concat after with rfl | ⟨after, z, rfl⟩
  · obtain ⟨rfl, rfl⟩ := List.append_singleton_inj.mp h
    exact .inl ⟨rfl, rfl, rfl⟩
  · rw [List.concat_eq_append, ← List.cons_append, ← List.append_assoc] at h
    obtain ⟨rfl, rfl⟩ := List.append_singleton_inj.mp h
    exact .inr ⟨after, List.concat_eq_append, rfl⟩

theorem split_singleton {α : Type} {before after : List α} {x y : α}
    (h : [x] = before ++ y :: after) : before = [] ∧ y = x ∧ after = [] := by
  obtain hlast | ⟨after', -, hnil⟩ := split_concat (l := []) h
  · exact hlast
  · exact absurd hnil not_split_nil

/-! ## Steps and their events -/

variable {σ α β ε : Type} (E : Environment σ)

/-- The environment may answer the operation of the event with the answer of the event. -/
def Environment.Gives (ev : Event) : Prop := ∃ s, (E.answer ev.op s).1 = ev.answer

/-- The events by which the past of a world exceeds that of an earlier one, in order. -/
def World.since (later earlier : World σ) : List Event :=
  (later.past.take (later.past.length - earlier.past.length)).reverse

theorem World.since_eq {later earlier : World σ} {es : List Event}
    (h : later.past = es.reverse ++ earlier.past) : later.since earlier = es := by
  have hlen : later.past.length - earlier.past.length = es.reverse.length := by
    rw [h, List.length_append]
    omega
  rw [since, hlen, h, List.take_left, List.reverse_reverse]

theorem World.since_self (w : World σ) : w.since w = [] := World.since_eq rfl

/-- Some events have happened since a world, and some lines have been logged. -/
structure World.Gains (w w' : World σ) (es : List Event) (lines : List LogLine) : Prop where
  past : w'.past = es.reverse ++ w.past
  lines : w'.lines = lines.reverse ++ w.lines

namespace World.Gains

variable {w w₁ w₂ : World σ} {es es' : List Event} {lines lines' : List LogLine}

theorem refl (w : World σ) : Gains w w [] [] := ⟨rfl, rfl⟩

theorem trans (h : Gains w w₁ es lines) (h' : Gains w₁ w₂ es' lines') :
    Gains w w₂ (es ++ es') (lines ++ lines') := by
  constructor
  · rw [h'.past, h.past, List.reverse_append, List.append_assoc]
  · rw [h'.lines, h.lines, List.reverse_append, List.append_assoc]

theorem since_eq (h : Gains w w₁ es lines) : w₁.since w = es := World.since_eq h.past

end World.Gains

/-- What has become of a world: events that the environment gives have happened and lines have been
logged, of which `P` holds together with the result. -/
def World.Ends (w : World σ) (r : α × World σ) (P : List Event → List LogLine → α → Prop) : Prop :=
  ∃ es lines, World.Gains w r.2 es lines ∧ (∀ ev ∈ es, E.Gives ev) ∧ P es lines r.1

/-- From any world the step adds events that the environment gives and logs some lines, of which `P`
holds together with the result. -/
def Leaves (f : Act σ α) (P : List Event → List LogLine → α → Prop) : Prop :=
  ∀ w, World.Ends E w (f w) P

/-- From any world the step adds events that the environment gives, of which `P` holds together with
the result. -/
def Emits (f : Act σ α) (P : List Event → α → Prop) : Prop :=
  Leaves E f fun es _ a => P es a

variable {E}

/-- What a step does after one whose result is known. -/
theorem bind_of_eq {α β : Type} {f : Act σ α} {g : α → Act σ β} {w w' : World σ} {a : α}
    (h : f w = (a, w')) : (f >>= g) w = g a w' := by
  change (match f w with | (a, w') => g a w') = g a w'
  rw [h]

/-- Operations of a kind that the announcement of an end is not of announce none. -/
theorem not_isTlsShutdown_of {p : Op → Prop} (hp : ∀ s, ¬ p (.tlsShutdown s)) {es : List Event}
    (h : ∀ ev ∈ es, p ev.op) : ∀ ev ∈ es, ev.op.isTlsShutdown = false := by
  intro ev hev
  obtain ⟨op, a⟩ := ev
  have hop := h _ hev
  cases op with
  | tlsShutdown s => exact absurd hop (hp s)
  | _ => rfl

namespace World.Ends

variable {w w' : World σ} {r : α × World σ} {P Q : List Event → List LogLine → α → Prop}

theorem self {a : α} (h : P [] [] a) : World.Ends E w (a, w) P :=
  ⟨[], [], .refl w, fun _ hev => absurd hev List.not_mem_nil, h⟩

theorem mono (h : World.Ends E w r P) (hPQ : ∀ es lines a, P es lines a → Q es lines a) :
    World.Ends E w r Q :=
  let ⟨es, lines, hgains, hgives, hP⟩ := h
  ⟨es, lines, hgains, hgives, hPQ es lines _ hP⟩

/-- What happens later comes on top of what has happened before. -/
theorem after {es : List Event} {lines : List LogLine} (hgains : World.Gains w w' es lines)
    (hgives : ∀ ev ∈ es, E.Gives ev)
    (h : World.Ends E w' r fun es' lines' a => P (es ++ es') (lines ++ lines') a) :
    World.Ends E w r P :=
  let ⟨es', lines', hgains', hgives', hP⟩ := h
  ⟨es ++ es', lines ++ lines', hgains.trans hgains',
    List.forall_mem_append.mpr ⟨hgives, hgives'⟩, hP⟩

theorem after_perform {op : Op} (h : World.Ends E (perform E op w).2 r fun es lines a =>
    P (⟨op, (E.answer op w.state).1⟩ :: es) lines a) : World.Ends E w r P := by
  have hgains : World.Gains w (perform E op w).2 [⟨op, (E.answer op w.state).1⟩] [] := ⟨rfl, rfl⟩
  exact after hgains (List.forall_mem_singleton.mpr ⟨w.state, rfl⟩) h

theorem after_record {lines : List LogLine} (h : World.Ends E (w.record lines) r
    fun es lines' a => P es (lines ++ lines') a) : World.Ends E w r P :=
  after ⟨rfl, rfl⟩ (fun _ hev => absurd hev List.not_mem_nil) h

end World.Ends

namespace Leaves

variable {P : List Event → List LogLine → α → Prop}

theorem mono {Q : List Event → List LogLine → α → Prop} {f : Act σ α} (h : Leaves E f P)
    (hPQ : ∀ es lines a, P es lines a → Q es lines a) : Leaves E f Q :=
  fun w => (h w).mono hPQ

theorem pure {a : α} (h : P [] [] a) : Leaves E (Pure.pure a : Act σ α) P :=
  fun _ => .self h

theorem say {line : LogLine} {P : List Event → List LogLine → Unit → Prop} (h : P [] [line] ()) :
    Leaves E (SecureStream.say line : Act σ Unit) P := fun _ =>
  ⟨[], [line], ⟨rfl, rfl⟩, fun _ hev => absurd hev List.not_mem_nil, h⟩

theorem perform {op : Op} {P : List Event → List LogLine → op.Answer → Prop}
    (h : ∀ a, P [⟨op, a⟩] [] a) : Leaves E (SecureStream.perform E op) P :=
  fun _ => .after_perform (.self (h _))

theorem bind {f : Act σ α} {g : α → Act σ β} {Q : List Event → List LogLine → β → Prop}
    (hf : Leaves E f P) (hg : ∀ es lines a, P es lines a →
      Leaves E (g a) fun es' lines' b => Q (es ++ es') (lines ++ lines') b) :
    Leaves E (f >>= g) Q := by
  intro w
  obtain ⟨es, lines, hgains, hgives, hP⟩ := hf w
  exact .after hgains hgives (hg es lines _ hP (f w).2)

theorem say_bind {line : LogLine} {g : Unit → Act σ β} {Q : List Event → List LogLine → β → Prop}
    (hg : Leaves E (g ()) fun es lines b => Q es (line :: lines) b) :
    Leaves E (SecureStream.say line >>= g) Q := by
  have hsay : Leaves E (SecureStream.say line) fun es lines _ => es = [] ∧ lines = [line] :=
    say ⟨rfl, rfl⟩
  refine hsay.bind ?_
  rintro _ _ _ ⟨rfl, rfl⟩
  exact hg

theorem perform_bind {op : Op} {g : op.Answer → Act σ β} {Q : List Event → List LogLine → β → Prop}
    (hg : ∀ a, Leaves E (g a) fun es lines b => Q (⟨op, a⟩ :: es) lines b) :
    Leaves E (SecureStream.perform E op >>= g) Q := by
  have hperform : Leaves E (SecureStream.perform E op) fun es lines a =>
      es = [⟨op, a⟩] ∧ lines = [] := perform fun _ => ⟨rfl, rfl⟩
  refine hperform.bind ?_
  rintro _ _ a ⟨rfl, rfl⟩
  exact hg a

/-- Of two steps the second is made only if the first one succeeds. -/
theorem bindE {f : ExceptT ε (StateM (World σ)) α} {g : α → ExceptT ε (StateM (World σ)) β}
    {P : List Event → List LogLine → Except ε α → Prop}
    {Q : List Event → List LogLine → Except ε β → Prop} (hf : Leaves E f.run P)
    (error : ∀ es lines e, P es lines (.error e) → Q es lines (.error e))
    (ok : ∀ es lines a, P es lines (.ok a) →
      Leaves E (g a).run fun es' lines' r => Q (es ++ es') (lines ++ lines') r) :
    Leaves E (f >>= g).run Q := by
  change Leaves E (f.run >>= ExceptT.bindCont g) Q
  refine hf.bind fun es lines r hP => ?_
  cases r with
  | error e =>
    refine pure ?_
    rw [List.append_nil, List.append_nil]
    exact error es lines e hP
  | ok a => exact ok es lines a hP

/-- One operation that may fail is made, and then a second step if it succeeds. -/
theorem attempt_bindE {f : ExceptT ε (StateM (World σ)) α}
    {g : α → ExceptT ε (StateM (World σ)) β} {Q : List Event → List LogLine → Except ε β → Prop}
    (event : Except ε α → Event)
    (hf : Leaves E f.run fun es lines r => es = [event r] ∧ lines = [])
    (error : ∀ e, Q [event (.error e)] [] (.error e))
    (ok : ∀ a, Leaves E (g a).run fun es lines r => Q (event (.ok a) :: es) lines r) :
    Leaves E (f >>= g).run Q := by
  refine hf.bindE ?_ ?_
  · rintro _ _ e ⟨rfl, rfl⟩
    exact error e
  · rintro _ _ a ⟨rfl, rfl⟩
    exact ok a

end Leaves

namespace Emits

variable {P : List Event → α → Prop}

/-- What a step emits is what the world has gained by it. -/
theorem since {f : Act σ α} (h : Emits E f P) (w : World σ) :
    (∀ ev ∈ (f w).2.since w, E.Gives ev) ∧ P ((f w).2.since w) (f w).1 := by
  obtain ⟨es, lines, hgains, hgives, hP⟩ := h w
  rw [hgains.since_eq]
  exact ⟨hgives, hP⟩

/-- The events of a step are determined, so what is known of them from two sides holds at once. -/
theorem and {Q : List Event → α → Prop} {f : Act σ α} (hP : Emits E f P) (hQ : Emits E f Q) :
    Emits E f fun es a => P es a ∧ Q es a := by
  intro w
  obtain ⟨es, lines, hgains, hgives, hP⟩ := hP w
  obtain ⟨es', lines', hgains', -, hQ⟩ := hQ w
  obtain rfl : es = es' := hgains.since_eq.symm.trans hgains'.since_eq
  exact ⟨es, lines, hgains, hgives, hP, hQ⟩

theorem mono {Q : List Event → α → Prop} {f : Act σ α} (h : Emits E f P)
    (hPQ : ∀ es a, P es a → Q es a) : Emits E f Q :=
  Leaves.mono h fun es _ a => hPQ es a

/-- A step that makes no operations, but may log. -/
theorem of_gains {f : Act σ α} (hgains : ∀ w, ∃ lines, World.Gains w (f w).2 [] lines)
    (hP : ∀ w, P [] (f w).1) : Emits E f P := fun w =>
  let ⟨lines, hlines⟩ := hgains w
  ⟨[], lines, hlines, fun _ hev => absurd hev List.not_mem_nil, hP w⟩

theorem pure {a : α} (h : P [] a) : Emits E (Pure.pure a : Act σ α) P := Leaves.pure h

theorem say {line : LogLine} {P : List Event → Unit → Prop} (h : P [] ()) :
    Emits E (SecureStream.say line : Act σ Unit) P :=
  Leaves.say h

theorem perform {op : Op} {P : List Event → op.Answer → Prop} (h : ∀ a, P [⟨op, a⟩] a) :
    Emits E (SecureStream.perform E op) P :=
  Leaves.perform h

theorem bind {f : Act σ α} {g : α → Act σ β} {Q : List Event → β → Prop} (hf : Emits E f P)
    (hg : ∀ es a, P es a → Emits E (g a) fun es' b => Q (es ++ es') b) : Emits E (f >>= g) Q :=
  Leaves.bind hf fun es _ a h => hg es a h

theorem say_bind {line : LogLine} {g : Unit → Act σ β} {Q : List Event → β → Prop}
    (hg : Emits E (g ()) Q) : Emits E (SecureStream.say line >>= g) Q :=
  Leaves.say_bind hg

theorem perform_bind {op : Op} {g : op.Answer → Act σ β} {Q : List Event → β → Prop}
    (hg : ∀ a, Emits E (g a) fun es b => Q (⟨op, a⟩ :: es) b) :
    Emits E (SecureStream.perform E op >>= g) Q :=
  Leaves.perform_bind hg

theorem map {f : Act σ α} {g : α → β} {Q : List Event → β → Prop} (hf : Emits E f P)
    (h : ∀ es a, P es a → Q es (g a)) : Emits E (g <$> f) Q := fun w =>
  let ⟨es, lines, hgains, hgives, hP⟩ := hf w
  ⟨es, lines, hgains, hgives, h es _ hP⟩

/-- Of two steps the second is made only if the first one succeeds. -/
theorem bindE {f : ExceptT ε (StateM (World σ)) α} {g : α → ExceptT ε (StateM (World σ)) β}
    {P : List Event → Except ε α → Prop} {Q : List Event → Except ε β → Prop}
    (hf : Emits E f.run P) (error : ∀ es e, P es (.error e) → Q es (.error e))
    (ok : ∀ es a, P es (.ok a) → Emits E (g a).run fun es' r => Q (es ++ es') r) :
    Emits E (f >>= g).run Q :=
  Leaves.bindE hf (fun es _ e => error es e) fun es _ a h => ok es a h

end Emits

/-! ## Operations that are made again -/

/-- An operation that was made until it was not interrupted, and the answer that it got then. -/
def Persisted (op : Op) (es : List Event) (a : op.Answer) : Prop :=
  ∃ interruptions : List op.Answer, (∀ b ∈ interruptions, op.isTransient b = true) ∧
    op.isTransient a = false ∧ es = interruptions.map (Event.mk op) ++ [⟨op, a⟩]

theorem Persisted.op_eq {op : Op} {es : List Event} {a : op.Answer} (h : Persisted op es a) :
    ∀ ev ∈ es, ev.op = op := by
  obtain ⟨interruptions, -, -, rfl⟩ := h
  intro ev hev
  rcases List.mem_append.mp hev with hev | hev
  · obtain ⟨b, -, rfl⟩ := List.mem_map.mp hev
    rfl
  · rw [List.mem_singleton.mp hev]

variable (E) in
theorem emits_persist (op : Op) : Emits E (persist E op) (Persisted op) := by
  intro w
  refine Retry.run_induction (P := fun w r => World.Ends E w r fun es _ => Persisted op es)
    (bounded_perform E op) (fun w hdecisive => ?_) (fun w r htransient hrest => ?_) w
  · exact .after_perform (.self ⟨[], by simp, hdecisive, rfl⟩)
  · refine .after_perform (hrest.mono ?_)
    rintro _ _ a ⟨interruptions, hin, ha, rfl⟩
    exact ⟨_ :: interruptions, List.forall_mem_cons.mpr ⟨htransient, hin⟩, ha, rfl⟩

/-- An operation that is interrupted only without effect, and is settled otherwise, is settled when
it is made until it is not interrupted. -/
theorem persist_settled (op : Op) {P : σ → Prop} {Q : op.Answer → σ → Prop}
    (hE : ∀ state, P state →
      (op.isTransient (E.answer op state).1 = true ∧ P (E.answer op state).2) ∨
        Q (E.answer op state).1 (E.answer op state).2)
    (hQ : ∀ a state, Q a state → op.isTransient a = false) (w : World σ) (hw : P w.state) :
    Q (persist E op w).1 (persist E op w).2.state := by
  refine Retry.run_induction (P := fun (w : World σ) r => P w.state → Q r.1 r.2.state)
    (bounded_perform E op) (fun w hdecisive hw => ?_) (fun w r htransient ih hw => ?_) w hw
  · have hdecisive' : op.isTransient (E.answer op w.state).1 = false := hdecisive
    rcases hE w.state hw with ⟨htransient, -⟩ | h
    · rw [htransient] at hdecisive'
      exact nomatch hdecisive'
    · exact h
  · have htransient' : op.isTransient (E.answer op w.state).1 = true := htransient
    rcases hE w.state hw with ⟨-, hP⟩ | h
    · exact ih hP
    · rw [hQ _ _ h] at htransient'
      exact nomatch htransient'

/-! ## Steps that make operations of one kind only -/

/-- The step makes no other operations than those with `p`. -/
def EmitsOnly (E : Environment σ) (f : Act σ α) (p : Op → Prop) : Prop :=
  Emits E f fun es _ => ∀ ev ∈ es, p ev.op

namespace EmitsOnly

variable {p : Op → Prop}

theorem pure {a : α} : EmitsOnly E (Pure.pure a : Act σ α) p := Emits.pure (by simp)

theorem say {line : LogLine} : EmitsOnly E (SecureStream.say line : Act σ Unit) p :=
  Emits.say (by simp)

theorem persist {op : Op} (h : p op) : EmitsOnly E (SecureStream.persist E op) p :=
  (emits_persist E op).mono fun _ _ hes ev hev => hes.op_eq ev hev ▸ h

theorem bind {f : Act σ α} {g : α → Act σ β} (hf : EmitsOnly E f p)
    (hg : ∀ a, EmitsOnly E (g a) p) : EmitsOnly E (f >>= g) p :=
  Emits.bind hf fun _ a hes => (hg a).mono fun _ _ hes' =>
    List.forall_mem_append.mpr ⟨hes, hes'⟩

end EmitsOnly

end SecureStream
