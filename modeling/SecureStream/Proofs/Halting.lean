import SecureStream.Proofs.Delivery
import SecureStream.Proofs.Soundness

/-!
# Operations that fail for good

Only an interruption is made up for. Whatever else goes wrong with a read, a write or a handshake,
time limits included, is the end of the call that it happens in.

* `Event.systemError?`, `Event.failure?`: the system's error, and what it makes the call fail with;
* `Halted`: the call has failed with the first failure, and has done nothing more than to shut the
  connection down;
* `Session.emits_recv_halted`, `Transport.emits_recv_halted`, `Client.Opening.halted`: receiving and
  opening;
* **`Client.emits_halted`**: any call;
* `Exchange.Halts`, **`conversation_halts`**: all calls.
-/

namespace SecureStream

variable {σ α β : Type} {E : Environment σ}

/-! ## Failures -/

namespace Event

/-- The system's error that a read, a write or an attempt at a handshake has failed with. That the
peer is done is no failure of a read. -/
def systemError? : Event → Option SystemError
  | ⟨.read _ _, .error e⟩ | ⟨.write _ _, .error e⟩ => some e
  | ⟨.tlsRead _ _, .error e⟩ => if e.isEndOfStream then none else e.systemError?
  | ⟨.tlsWrite _ _, .error e⟩ => e.systemError?
  | ⟨.handshake _ _ _, ⟨_, .error e⟩⟩ => e.systemError?
  | _ => none

/-- What an event makes its call fail with. Interruptions make no call fail. -/
def failure? (ev : Event) : Option ConnectionError :=
  if ev.isInterruption then none
  else
    match ev with
    | ⟨.read _ _, .error e⟩ => some (.transport (.recv e))
    | ⟨.tlsRead _ _, .error e⟩ => if e.isEndOfStream then none else some (.recv e)
    | ⟨.handshake _ _ v, ⟨calls, .error e⟩⟩ =>
      some (.handshake v.serverName e.message (v.observe calls).2.status)
    | ev => ev.sendError?

theorem failure?_of_isInterruption {ev : Event} (h : ev.isInterruption = true) :
    ev.failure? = none := if_pos h

/-- What an event has failed with decides whether it was interrupted. -/
theorem isInterruption_of_systemError {ev : Event} {error : SystemError}
    (h : ev.systemError? = some error) : ev.isInterruption = error.isTransient := by
  have htls {e : Tls.Failure} (he : e.systemError? = some error) :
      e.isTransient = error.isTransient := by
    rw [Tls.Failure.isTransient, he]
  obtain ⟨op, a⟩ := ev
  cases op with
  | read | write =>
    cases a with
    | ok => cases h
    | error e =>
      obtain rfl := Option.some.inj h
      rfl
  | tlsRead =>
    cases a with
    | ok => cases h
    | error e =>
      by_cases hend : e.isEndOfStream = true
      · cases (if_pos hend).symm.trans h
      · exact htls ((if_neg hend).symm.trans h)
  | tlsWrite =>
    cases a with
    | ok => cases h
    | error e => exact htls h
  | handshake =>
    obtain ⟨calls, o⟩ := a
    cases o with
    | ok => cases h
    | error e => exact htls h
  | _ => cases h

/-- A system's error other than an interruption makes the call fail. -/
theorem exists_failure {ev : Event} {error : SystemError} (h : ev.systemError? = some error)
    (hkind : error.kind ≠ .interrupted) : ∃ e, ev.failure? = some e := by
  have hdecided : ev.isInterruption = false := by
    rw [isInterruption_of_systemError h]
    exact decide_eq_false hkind
  unfold failure?
  rw [if_neg (by rw [hdecided]; exact Bool.false_ne_true)]
  obtain ⟨op, a⟩ := ev
  cases op with
  | read | write | tlsWrite =>
    cases a with
    | ok => exact nomatch h
    | error e => exact ⟨_, rfl⟩
  | tlsRead =>
    cases a with
    | ok => exact nomatch h
    | error e =>
      by_cases hend : e.isEndOfStream = true
      · exact nomatch (if_pos hend).symm.trans h
      · exact ⟨_, if_neg hend⟩
  | handshake =>
    obtain ⟨calls, o⟩ := a
    cases o with
    | ok => exact nomatch h
    | error e => exact ⟨_, rfl⟩
  | _ => exact nomatch h

theorem failure?_of_isWrite {ev : Event} (hdecided : ev.isInterruption = false)
    (hop : ev.op.isWrite = true) : ev.failure? = ev.sendError? := by
  unfold failure?
  rw [if_neg (by rw [hdecided]; exact Bool.false_ne_true)]
  obtain ⟨op, a⟩ := ev
  cases op with
  | write | tlsWrite => rfl
  | _ => exact nomatch hop

theorem failure?_handshake {s : Socket} {request : Tls.Request} {v : Verifier}
    {calls : List Callback} {e : Tls.Failure} (hdecided : e.isTransient = false) :
    failure? ⟨.handshake s request v, ⟨calls, .error e⟩⟩ =
      some (.handshake v.serverName e.message (v.observe calls).2.status) :=
  if_neg fun (h : e.isTransient = true) => absurd (hdecided.symm.trans h) Bool.false_ne_true

/-- What opens a client without a handshake makes no call fail in this way. -/
theorem failure?_of_isSetUp {ev : Event} (h : ev.op.IsSetUp) : ev.failure? = none := by
  obtain ⟨op, a⟩ := ev
  cases op with
  | setUp | set => rfl
  | _ => exact h.elim

theorem failure?_of_isConnecting {ev : Event} (h : ev.op.IsConnecting) : ev.failure? = none := by
  obtain ⟨op, a⟩ := ev
  cases op with
  | resolve | socket | noDelay | keepAlive | connect | readLimit | writeLimit => rfl
  | _ => exact h.elim

end Event

/-- Nothing fails, or what fails is what the call fails with, and then nothing more is done than to
shut the connection down. -/
def Halted (es : List Event) (r : Except ConnectionError α) : Prop :=
  ∀ before ev after e, es = before ++ ev :: after → ev.failure? = some e →
    r = .error e ∧ ∀ ev' ∈ after, ∃ s, ev'.op = .shutdown s

namespace Halted

variable {es es' : List Event} {r : Except ConnectionError α} {r' : Except ConnectionError β}

theorem of_calm (h : ∀ ev ∈ es, ev.failure? = none) : Halted es r := by
  rintro before ev after e rfl he
  rw [h ev (List.mem_append_right before List.mem_cons_self)] at he
  exact nomatch he

theorem calm {a : α} (h : Halted es (.ok a : Except ConnectionError α)) :
    ∀ ev ∈ es, ev.failure? = none := by
  intro ev hev
  obtain ⟨before, after, hes⟩ := List.append_of_mem hev
  refine Option.eq_none_iff_forall_ne_some.mpr fun e he => ?_
  exact nomatch (h before ev after e hes he).1

theorem congr (h : Halted es r) (hr : ∀ e, r = .error e → r' = .error e) : Halted es r' :=
  fun before ev after e hes he =>
    ⟨hr e (h before ev after e hes he).1, (h before ev after e hes he).2⟩

theorem append (hcalm : ∀ ev ∈ es, ev.failure? = none) (h : Halted es' r) :
    Halted (es ++ es') r := by
  intro before ev after e hes he
  rcases List.append_eq_append_iff.mp hes with ⟨between, rfl, hes'⟩ | ⟨between, hes, hafter⟩
  · exact h between ev after e hes' he
  · cases between with
    | nil => exact h [] ev after e hafter.symm he
    | cons ev' between =>
      obtain ⟨rfl, -⟩ := List.cons.inj hafter
      rw [hcalm ev (hes ▸ List.mem_append_right before List.mem_cons_self)] at he
      exact nomatch he

theorem cons {ev : Event} (hcalm : ev.failure? = none) (h : Halted es r) : Halted (ev :: es) r :=
  append (List.forall_mem_singleton.mpr hcalm) h

theorem singleton {ev : Event} (h : ∀ e, ev.failure? = some e → r = .error e) :
    Halted [ev] r := by
  intro before ev' after e hes he
  obtain ⟨rfl, rfl, rfl⟩ := split_singleton hes
  exact ⟨h e he, fun _ hev => absurd hev List.not_mem_nil⟩

theorem shutdown {ev : Event} {s : Socket} {a : (Op.shutdown s).Answer} {e : ConnectionError}
    (h : ev.failure? = some e) :
    Halted [ev, ⟨.shutdown s, a⟩] (.error e : Except ConnectionError α) := by
  intro before ev' after e' hes he
  cases before with
  | nil =>
    obtain ⟨rfl, rfl⟩ := List.cons.inj hes
    obtain rfl := Option.some.inj (h.symm.trans he)
    exact ⟨rfl, List.forall_mem_singleton.mpr ⟨s, rfl⟩⟩
  | cons first before =>
    have hlast : ev' ∈ [⟨.shutdown s, a⟩] := by
      rw [(List.cons.inj hes).2]
      exact List.mem_append_right before List.mem_cons_self
    obtain rfl := List.mem_singleton.mp hlast
    exact nomatch he

/-- An operation that is made until it is not interrupted fails the call with its last answer. -/
theorem of_persisted {op : Op} {a : op.Answer} (h : Persisted op es a)
    (ha : ∀ e, (Event.mk op a).failure? = some e → r = .error e) : Halted es r := by
  obtain ⟨interruptions, hinterruptions, -, rfl⟩ := h
  refine append (fun ev hev => ?_) (singleton ha)
  obtain ⟨b, hb, rfl⟩ := List.mem_map.mp hev
  exact Event.failure?_of_isInterruption (hinterruptions b hb)

end Halted

/-! ## Receiving -/

namespace Event

theorem failure?_tlsRead {s : Socket} {room : Nat} {e : Tls.Failure} {e' : ConnectionError}
    (h : failure? ⟨.tlsRead s room, .error e⟩ = some e') :
    e.isEndOfStream = false ∧ e' = .recv e := by
  unfold failure? at h
  split at h
  · exact nomatch h
  · dsimp only at h
    split at h
    · exact nomatch h
    · next hend => exact ⟨eq_false_of_ne_true hend, (Option.some.inj h).symm⟩

theorem failure?_read {s : Socket} {room : Nat} {e : SystemError} {e' : ConnectionError}
    (h : failure? ⟨.read s room, .error e⟩ = some e') : e' = .transport (.recv e) := by
  unfold failure? at h
  split at h
  · exact nomatch h
  · exact (Option.some.inj h).symm

end Event

namespace Session

theorem emits_readRecord_halted (s : Socket) (room : Nat) :
    Emits E (readRecord E s room) fun es r => Halted es (r.mapError .recv) := by
  unfold readRecord
  refine (emits_persist E (.tlsRead s room)).bind fun es a hes => ?_
  cases a with
  | ok bytes =>
    refine .pure ?_
    rw [List.append_nil]
    exact .of_persisted hes fun e he => nomatch he
  | error e =>
    dsimp only
    split
    · next hend =>
      refine .pure ?_
      rw [List.append_nil]
      refine .of_persisted hes fun e' he => ?_
      rw [(Event.failure?_tlsRead he).1] at hend
      exact absurd hend Bool.false_ne_true
    · refine .pure ?_
      rw [List.append_nil]
      exact .of_persisted hes fun e' he => congrArg Except.error (Event.failure?_tlsRead he).2.symm

theorem emits_readTwice_halted (s : Socket) (room : Nat) :
    Emits E (readTwice E s room) fun es r => Halted es (r.1.mapError .recv) := by
  unfold readTwice
  refine (emits_readRecord_halted s room).bind fun es r hes => ?_
  cases r with
  | error e =>
    refine .pure ?_
    rw [List.append_nil]
    exact hes.congr fun e' he => congrArg Except.error (Except.error.inj he)
  | ok first =>
    dsimp only
    split
    · refine (emits_readRecord_halted s _).bind fun es' r hes' => ?_
      cases r with
      | error e =>
        refine .pure (.append hes.calm ?_)
        rw [List.append_nil]
        exact hes'.congr fun e' he => congrArg Except.error (Except.error.inj he)
      | ok second =>
        refine .pure (.append hes.calm ?_)
        rw [List.append_nil]
        exact .of_calm hes'.calm
    · refine .pure ?_
      rw [List.append_nil]
      exact .of_calm hes.calm

theorem emits_recv_halted (s : Session) (buffer : List UInt8) :
    Emits E (s.recv E buffer) fun es r => Halted es r.1 := by
  unfold recv
  split
  · exact .pure (.of_calm fun _ hev => absurd hev List.not_mem_nil)
  · refine (emits_readTwice_halted s.socket buffer.length).bind fun es r hes => ?_
    obtain ⟨r, bytes⟩ := r
    cases r with
    | error e =>
      refine .pure ?_
      rw [List.append_nil]
      exact hes.congr fun e' he => congrArg Except.error (Except.error.inj he)
    | ok _ =>
      refine .say_bind (.pure ?_)
      rw [List.append_nil]
      exact .of_calm hes.calm

end Session

namespace Transport

theorem emits_readAll_halted (s : Socket) (room : Nat) :
    Emits E (readAll E s room) fun es r =>
      Halted es (r.1.mapError fun e => .transport (.recv e)) := by
  rw [readAll]
  split
  · exact .pure (.of_calm fun _ hev => absurd hev List.not_mem_nil)
  · refine (emits_persist E (.read s room)).bind fun es a hes => ?_
    cases a with
    | error e =>
      refine .pure ?_
      rw [List.append_nil]
      exact .of_persisted hes fun e' he => congrArg Except.error (Event.failure?_read he).symm
    | ok bytes =>
      have hcalm : Halted es (.ok () : Except ConnectionError Unit) :=
        .of_persisted hes fun e he => by cases he
      dsimp only
      split
      · refine .pure ?_
        rw [List.append_nil]
        exact .of_calm hcalm.calm
      · next hne =>
        have hpos := List.length_pos_iff.mpr hne
        refine (emits_readAll_halted s (room - bytes.val.length)).bind fun es' r hes' => .pure ?_
        rw [List.append_nil]
        exact .append hcalm.calm hes'
termination_by room
decreasing_by omega

theorem emits_recv_halted {t : Transport} {s : Socket} (ht : t.stream = some s)
    (buffer : List UInt8) :
    Emits E (t.recv E buffer) fun es r => Halted es (r.1.mapError .transport) := by
  unfold recv
  rw [ht]
  refine (emits_readAll_halted s buffer.length).bind fun es r hes => ?_
  obtain ⟨r, bytes⟩ := r
  cases r with
  | error e =>
    refine .pure ?_
    rw [List.append_nil]
    exact hes.congr fun e' he => congrArg Except.error (Except.error.inj he)
  | ok _ =>
    refine .say_bind (.pure ?_)
    rw [List.append_nil]
    exact .of_calm hes.calm

end Transport

/-! ## Sending -/

/-- Sending fails with the first write that fails for good, and that is the last one. -/
theorem Sent.halted {op : List UInt8 → Op} {payload : List UInt8} {es : List Event}
    {r : Except ConnectionError Unit} (h : Sent op payload es r)
    (hop : ∀ bytes, (op bytes).isWrite = true) : Halted es r := by
  intro before ev after e hes he
  have hev : ev.op.isWrite = true := by
    rw [h.op_eq ev (hes ▸ List.mem_append_right before List.mem_cons_self)]
    exact hop _
  have hdecided : ev.isInterruption = false := by
    cases hi : ev.isInterruption with
    | false => rfl
    | true => exact nomatch (Event.failure?_of_isInterruption hi).symm.trans he
  have herror : ev.sendError? = some e := by
    rwa [Event.failure?_of_isWrite hdecided hev] at he
  obtain rfl := h.last before ev after e hes hdecided herror
  refine ⟨(h.error_iff e).mpr ⟨before, ev, [], hes, hdecided, herror⟩, ?_⟩
  exact fun _ hev' => absurd hev' List.not_mem_nil

/-! ## Opening -/

namespace Pending

/-- All attempts at a handshake but the last are interrupted. The last one knows what has been found
in those before. -/
theorem Attempts.exists_last {s : Socket} {request : Tls.Request} {v v' : Verifier}
    {es : List Event} {o : Except Tls.Failure Tls.Negotiated}
    (h : Attempts s request v es v' o) : ∃ before v₁ calls,
      es = before ++ [⟨.handshake s request v₁, ⟨calls, o⟩⟩] ∧
      (∀ ev ∈ before, ev.isInterruption = true) ∧ isInterrupted o = false ∧
      v' = (v₁.observe calls).2 ∧ v₁.serverName = v.serverName := by
  induction h with
  | @decided v a ha =>
    exact ⟨[], v, a.calls, rfl, fun _ hev => absurd hev List.not_mem_nil, ha, rfl, rfl⟩
  | @interrupted v v' es o a ha _ ih =>
    obtain ⟨before, v₁, calls, rfl, hbefore, ho, rfl, hname⟩ := ih
    refine ⟨_ :: before, v₁, calls, rfl, List.forall_mem_cons.mpr ⟨?_, hbefore⟩, ho, rfl, ?_⟩
    · exact ha
    · rw [hname, Verifier.observe_eq]

end Pending

namespace Client

variable {c : Client}

theorem Opening.halted {ctx : Context} {es : List Event} {r : Except ConnectionError Unit × Client}
    (h : Opening c ctx es r) : Halted es r.1 := by
  have hsetUp {es : List Event} (hes : ∀ ev ∈ es, ev.op.IsSetUp) : ∀ ev ∈ es, ev.failure? = none :=
    fun ev hev => Event.failure?_of_isSetUp (hes ev hev)
  have hreached {es : List Event} {o : Except TransportError Socket}
      (h : Transport.Reached (c.carriedBy none).transport es o) :
      ∀ ev ∈ es, ev.failure? = none :=
    fun ev hev => Event.failure?_of_isConnecting (h.isConnecting ev hev)
  have hinterrupted {es : List Event} (hes : ∀ ev ∈ es, ev.isInterruption = true) :
      ∀ ev ∈ es, ev.failure? = none :=
    fun ev hev => Event.failure?_of_isInterruption (hes ev hev)
  cases h with
  | unmade hes => exact .of_calm (hsetUp hes)
  | unreached hes h => exact .of_calm (List.forall_mem_append.mpr ⟨hsetUp hes, hreached h⟩)
  | undoubled hes h =>
    refine .append (List.forall_mem_append.mpr ⟨hsetUp hes, hreached h⟩) (.of_calm ?_)
    simp [Event.failure?, Event.isInterruption, Op.isTransient, Event.sendError?]
  | @refused es es' s second request es'' v e a hes h ha =>
    obtain ⟨before, v₁, calls, rfl, hbefore, ho, rfl, hname⟩ := ha.exists_last
    refine .append (List.forall_mem_append.mpr ⟨hsetUp hes, hreached h⟩) ?_
    refine .cons rfl ?_
    rw [List.append_assoc]
    refine .append (hinterrupted hbefore) (.shutdown ?_)
    rw [Event.failure?_handshake ho, hname]
    rfl
  | secured hes h ha =>
    obtain ⟨before, v₁, calls, rfl, hbefore, ho, rfl, hname⟩ := ha.exists_last
    refine .append (List.forall_mem_append.mpr ⟨hsetUp hes, hreached h⟩) ?_
    refine .cons rfl ?_
    exact .append (hinterrupted hbefore) (.of_calm (List.forall_mem_singleton.mpr rfl))

end Client

/-! ## All calls -/

/-- Whether a call has succeeded. -/
def Call.outcome : (call : Call) → call.Reply → Except ConnectionError Unit
  | connect _, r | send _, r | close, r => r
  | recv _, r => r.1.map fun _ => ()

namespace Client

variable {c : Client}

/-- A transfer aside, a call fails only by the handshake that opens the client. -/
theorem Move.halted {call : Call} {es : List Event} {r : call.Reply × Client}
    (h : Move c call es r) (hcall : call.isTransfer = false) : Halted es (call.outcome r.1) := by
  cases h with
  | openAlready | closeNothing => exact .of_calm fun _ hev => absurd hev List.not_mem_nil
  | opening _ _ _ _ h => exact h.opening.halted
  | connecting _ _ h =>
    exact .of_calm fun ev hev => Event.failure?_of_isConnecting (h.isConnecting ev hev)
  | unsent | unreceived => exact nomatch hcall
  | records htransfer | raw htransfer =>
    rw [htransfer] at hcall
    exact nomatch hcall
  | closeSession => exact .cons rfl (.cons rfl (.of_calm fun _ hev => absurd hev List.not_mem_nil))
  | closeTransport => exact .cons rfl (.of_calm fun _ hev => absurd hev List.not_mem_nil)

/-- **Every call fails with the first failure in it, and does nothing more than to shut the
connection down.** -/
theorem emits_halted (hc : c.Coherent) (call : Call) :
    Emits E (c.answer E call) fun es r => Halted es (call.outcome r.1) := by
  cases call with
  | connect msg => exact (emits_answer hc _).mono fun _ _ h => h.halted rfl
  | close => exact (emits_answer hc _).mono fun _ _ h => h.halted rfl
  | send payload =>
    refine ((emits_answer hc _).and (emits_delivers hc _)).mono fun es r ⟨hmove, hsent⟩ => ?_
    cases hmove with
    | unsent => exact .of_calm fun _ hev => absurd hev List.not_mem_nil
    | @records _ s _ _ _ hsession =>
      refine (hsent (.tlsWrite s.socket) ?_).halted fun _ => rfl
      rw [writeOp?, hsession]
    | raw _ hsession hstream =>
      obtain ⟨s, hs⟩ := Option.isSome_iff_exists.mp hstream
      refine (hsent (.write s) ?_).halted fun _ => rfl
      rw [writeOp?, hsession, hs]
      rfl
  | recv buffer =>
    change Emits E (c.recv E buffer >>= fun r => pure (r, c)) _
    cases hsession : c.session with
    | some s =>
      rw [recv_of_session hsession]
      refine (s.emits_recv_halted buffer).bind fun es r hes => .pure ?_
      rw [List.append_nil]
      refine hes.congr fun e he => ?_
      change r.1.map _ = _
      rw [he]
      rfl
    | none =>
      cases hstream : c.transport.stream with
      | none =>
        rw [recv_unconnected hsession hstream]
        exact .pure (.of_calm fun _ hev => absurd hev List.not_mem_nil)
      | some s =>
        rw [recv_of_no_session hsession]
        refine ((Transport.emits_recv_halted hstream buffer).bind
          (Q := fun es r => Halted es r.1) fun es r hes => ?_).bind fun es r hes => .pure ?_
        · refine .pure ?_
          rw [List.append_nil]
          exact hes
        · rw [List.append_nil]
          refine hes.congr fun e he => ?_
          change r.1.map _ = _
          rw [he]
          rfl

end Client

/-- What fails with a system's error other than an interruption is not made again. The call fails
with the error, and does nothing more than to shut the connection down. -/
def Exchange.Halts (x : Exchange) : Prop :=
  ∀ before ev after error, x.events = before ++ ev :: after → ev.systemError? = some error →
    error.kind ≠ .interrupted → ∃ e, ev.failure? = some e ∧ x.call.outcome x.reply = .error e ∧
      ∀ ev' ∈ after, ∃ s, ev'.op = .shutdown s

/-- **Whatever is asked of a client, nothing but an interruption is made up for.** -/
theorem conversation_halts {κ : Type} [DecidableEq κ] {clients : κ → Client} {k : κ}
    (hk : (clients k).Coherent) (calls : List (κ × Call)) (w : World σ) :
    ∀ x ∈ (conversation E clients calls w k).exchanges, x.Halts := by
  intro x hx
  obtain ⟨before, after, h⟩ := List.append_of_mem hx
  refine conversation_exchange_of_emits (E := E) (P := fun _ => True) (Q := fun _ x => x.Halts) hk
    (fun _ call hc => Client.emits_halted hc call) trivial
    (fun t call es r _ _ _ hhalted _ => ⟨trivial, ?_⟩) calls w h
  intro before ev after error hes herror hkind
  obtain ⟨e, he⟩ := Event.exists_failure herror hkind
  exact ⟨e, he, hhalted before ev after e hes he⟩

end SecureStream
