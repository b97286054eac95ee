import SecureStream.Client
import SecureStream.Proofs.Emission

/-!
# What moving bytes does

Bytes go over a session in records, and over a plain connection as they are. Neither makes any other
operation.

* `Event.offered`, `Event.accepted`: what an event says about bytes for the peer;
* `Writing`: writes that are made as long as there are bytes left;
* `WritesAll`, `WritesAll.emits`: a loop of writes, whatever the operation, does that;
* `Session.emits_send`, `Transport.emits_send`: records of the session, and raw bytes;
* `Session.emits_recv`, `Transport.emits_recv`: whatever holds of reads holds of all that is done.
-/

namespace SecureStream

variable {σ ε : Type} {E : Environment σ}

/-! ## Writes -/

namespace Event

/-- The bytes that a write was offered. -/
def offered : Event → List UInt8
  | ⟨.write _ bytes, _⟩ | ⟨.tlsWrite _ bytes, _⟩ => bytes
  | _ => []

/-- The bytes that a write has taken, from the front of those it was offered. -/
def accepted : Event → List UInt8
  | ⟨.write _ bytes, .ok last⟩ => bytes.take (last.val + 1)
  | ⟨.tlsWrite _ bytes, .ok last⟩ => bytes.take (last.val + 1)
  | _ => []

/-- What becomes of sending if a write fails for good. -/
def sendError? : Event → Option ConnectionError
  | ⟨.write _ _, .error e⟩ => some (.transport (.send e))
  | ⟨.tlsWrite _ _, .error e⟩ => some (.send e)
  | _ => none

/-- The operation was interrupted. -/
def isInterruption (ev : Event) : Bool := ev.op.isTransient ev.answer

end Event

/-- Writes of some bytes by one operation, which is made as long as there are bytes left that have
not been taken. -/
inductive Writing (op : List UInt8 → Op) :
    List UInt8 → List Event → Except ConnectionError Unit → Prop
  | done : Writing op [] [] (.ok ())
  | interrupted {bytes a es r} : bytes ≠ [] → (Event.mk (op bytes) a).isInterruption = true →
    Writing op bytes es r → Writing op bytes (⟨op bytes, a⟩ :: es) r
  | taken {bytes a es r} : bytes ≠ [] → (Event.mk (op bytes) a).isInterruption = false →
    (Event.mk (op bytes) a).sendError? = none →
    Writing op (bytes.drop (Event.mk (op bytes) a).accepted.length) es r →
    Writing op bytes (⟨op bytes, a⟩ :: es) r
  | failed {bytes a e} : bytes ≠ [] → (Event.mk (op bytes) a).isInterruption = false →
    (Event.mk (op bytes) a).sendError? = some e → Writing op bytes [⟨op bytes, a⟩] (.error e)

namespace Writing

variable {op : List UInt8 → Op} {payload : List UInt8} {es : List Event}
  {r : Except ConnectionError Unit}

theorem op_eq (hop : ∀ bytes a, (Event.mk (op bytes) a).offered = bytes)
    (h : Writing op payload es r) : ∀ ev ∈ es, ev.op = op ev.offered := by
  induction h with
  | done => exact fun _ hev => absurd hev List.not_mem_nil
  | interrupted _ _ _ ih | taken _ _ _ _ ih =>
    refine List.forall_mem_cons.mpr ⟨?_, ih⟩
    rw [hop]
  | failed =>
    refine List.forall_mem_singleton.mpr ?_
    rw [hop]

/-- An operation that is made until it is not interrupted goes before the writes behind it. -/
theorem of_persisted {bytes : List UInt8} {es₁ es₂ : List Event} {a : (op bytes).Answer}
    (h : Persisted (op bytes) es₁ a) (hne : bytes ≠ [])
    (hrest : (Event.mk (op bytes) a).isInterruption = false →
      Writing op bytes (⟨op bytes, a⟩ :: es₂) r) : Writing op bytes (es₁ ++ es₂) r := by
  obtain ⟨interruptions, hinterruptions, hdecided, rfl⟩ := h
  induction interruptions with
  | nil => exact hrest hdecided
  | cons b interruptions ih =>
    obtain ⟨hb, hinterruptions⟩ := List.forall_mem_cons.mp hinterruptions
    exact .interrupted hne hb (ih hinterruptions)

end Writing

/-- A loop that writes bytes by one operation, until all have been taken or a write fails for good:
what it does without bytes, and how it goes on after a write. -/
structure WritesAll (E : Environment σ) (op : List UInt8 → Op) (wrap : ε → ConnectionError)
    (loop : List UInt8 → Act σ (Except ε Unit)) : Prop where
  nil : loop [] = pure (.ok ())
  cons : ∀ bytes, bytes ≠ [] → ∃ next : (op bytes).Answer → Act σ (Except ε Unit),
    loop bytes = persist E (op bytes) >>= next ∧ ∀ a,
      (∃ e, next a = pure (.error e) ∧ (Event.mk (op bytes) a).sendError? = some (wrap e)) ∨
      ∃ last : Fin bytes.length, next a = loop (bytes.drop (last.val + 1)) ∧
        (Event.mk (op bytes) a).sendError? = none ∧
        (Event.mk (op bytes) a).accepted = bytes.take (last.val + 1)

/-- **What such a loop does is one write after the other.** -/
theorem WritesAll.emits {op : List UInt8 → Op} {wrap : ε → ConnectionError}
    {loop : List UInt8 → Act σ (Except ε Unit)} (h : WritesAll E op wrap loop)
    (bytes : List UInt8) :
    Emits E (loop bytes) fun es r => Writing op bytes es (r.mapError wrap) := by
  by_cases hne : bytes = []
  · rw [hne, h.nil]
    exact .pure .done
  obtain ⟨next, hloop, hnext⟩ := h.cons bytes hne
  rw [hloop]
  refine (emits_persist E (op bytes)).bind fun es a hes => ?_
  rcases hnext a with ⟨e, hstop, herror⟩ | ⟨last, hgo, hnone, haccepted⟩
  · rw [hstop]
    exact .pure (.of_persisted hes hne fun hdecided => .failed hne hdecided herror)
  · rw [hgo]
    refine (h.emits (bytes.drop (last.val + 1))).mono fun es' r hrest => ?_
    refine .of_persisted hes hne fun hdecided => .taken hne hdecided hnone ?_
    rwa [haccepted, List.length_take, Nat.min_eq_left last.isLt]
termination_by bytes.length
decreasing_by
  have := last.isLt
  rw [List.length_drop]
  omega

namespace Session

theorem writesAll (s : Socket) : WritesAll E (.tlsWrite s) .send (writeAll E s) where
  nil := by
    rw [writeAll]
    rfl
  cons bytes hne := by
    rw [writeAll, if_neg hne]
    refine ⟨_, rfl, fun a => ?_⟩
    cases a with
    | error e => exact .inl ⟨e, rfl, rfl⟩
    | ok last => exact .inr ⟨last, rfl, rfl, rfl⟩

theorem emits_writeAll (s : Socket) (bytes : List UInt8) :
    EmitsOnly E (writeAll E s bytes) (Op.IsRecord s) :=
  ((writesAll s).emits bytes).mono fun _ _ h ev hev => by
    rw [h.op_eq (fun _ _ => rfl) ev hev]
    rfl

theorem emits_send (s : Session) (bytes : List UInt8) :
    EmitsOnly E (s.send E bytes) (Op.IsRecord s.socket) := by
  unfold send
  refine (emits_writeAll s.socket bytes).bind fun r => ?_
  cases r with
  | error e => exact .pure
  | ok _ => exact .bind .say fun _ => .pure

/-- Receiving makes reads and nothing else. -/
theorem emits_readRecord (s : Socket) (room : Nat) {p : Op → Prop}
    (hp : ∀ room, p (.tlsRead s room)) : EmitsOnly E (readRecord E s room) p := by
  unfold readRecord
  refine .bind (.persist (hp room)) fun a => ?_
  cases a with
  | ok bytes => exact .pure
  | error e =>
    dsimp only
    split <;> exact .pure

theorem emits_readTwice (s : Socket) (room : Nat) {p : Op → Prop}
    (hp : ∀ room, p (.tlsRead s room)) : EmitsOnly E (readTwice E s room) p := by
  unfold readTwice
  refine (emits_readRecord s room hp).bind fun r => ?_
  cases r with
  | error e => exact .pure
  | ok first =>
    dsimp only
    split
    · refine (emits_readRecord s _ hp).bind fun r => ?_
      cases r <;> exact .pure
    · exact .pure

theorem emits_recv (s : Session) (buffer : List UInt8) {p : Op → Prop}
    (hp : ∀ room, p (.tlsRead s.socket room)) : EmitsOnly E (s.recv E buffer) p := by
  unfold recv
  split
  · exact .pure
  · refine (emits_readTwice s.socket buffer.length hp).bind fun ⟨r, bytes⟩ => ?_
    cases r with
    | error e => exact .pure
    | ok _ => exact .bind .say fun _ => .pure

theorem emits_close (s : Session) :
    Emits E (s.close E) fun es _ => ∃ a, es = [⟨.tlsShutdown s.socket, a⟩] := by
  have hdrop : ∀ a, Emits E (drop : Act σ Unit) fun es _ =>
      ∃ b, ⟨.tlsShutdown s.socket, a⟩ :: es = [⟨.tlsShutdown s.socket, b⟩] :=
    fun a => .of_gains (fun _ => ⟨[], rfl, rfl⟩) fun _ => ⟨a, rfl⟩
  unfold close
  refine .perform_bind fun a => ?_
  cases a with
  | ok _ => exact .say_bind (hdrop _)
  | error e => exact .say_bind (hdrop _)

end Session

namespace Transport

theorem writesAll (s : Socket) :
    WritesAll E (.write s) (fun e => .transport (.send e)) (writeAll E s) where
  nil := by
    rw [writeAll]
    rfl
  cons bytes hne := by
    rw [writeAll, if_neg hne]
    refine ⟨_, rfl, fun a => ?_⟩
    cases a with
    | error e => exact .inl ⟨e, rfl, rfl⟩
    | ok last => exact .inr ⟨last, rfl, rfl, rfl⟩

theorem emits_writeAll (s : Socket) (bytes : List UInt8) :
    EmitsOnly E (writeAll E s bytes) fun op => op.isRaw = true :=
  ((writesAll s).emits bytes).mono fun _ _ h ev hev => by
    rw [h.op_eq (fun _ _ => rfl) ev hev]
    rfl

theorem emits_send {t : Transport} {s : Socket} (ht : t.stream = some s) (bytes : List UInt8) :
    EmitsOnly E (t.send E bytes) fun op => op.isRaw = true := by
  unfold send
  rw [ht]
  refine (emits_writeAll s bytes).bind fun r => ?_
  cases r with
  | error e => exact .pure
  | ok _ => exact .bind .say fun _ => .pure

theorem emits_readAll (s : Socket) (room : Nat) {p : Op → Prop} (hp : ∀ room, p (.read s room)) :
    EmitsOnly E (readAll E s room) p := by
  rw [readAll]
  split
  · exact .pure
  · refine .bind (.persist (hp room)) fun a => ?_
    cases a with
    | error e => exact .pure
    | ok bytes =>
      dsimp only
      split
      · exact .pure
      · next hne =>
        have hpos := List.length_pos_iff.mpr hne
        exact (emits_readAll s (room - bytes.val.length) hp).bind fun _ => .pure
termination_by room
decreasing_by omega

theorem emits_recv {t : Transport} {s : Socket} (ht : t.stream = some s) (buffer : List UInt8)
    {p : Op → Prop} (hp : ∀ room, p (.read s room)) : EmitsOnly E (t.recv E buffer) p := by
  unfold recv
  rw [ht]
  refine (emits_readAll s buffer.length hp).bind fun ⟨r, bytes⟩ => ?_
  cases r with
  | error e => exact .pure
  | ok _ => exact .bind .say fun _ => .pure

end Transport

end SecureStream
