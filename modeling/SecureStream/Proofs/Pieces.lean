import SecureStream.Proofs.Delivery
import SecureStream.Proofs.Reception

/-!
# The reads of one call

A session receives into a buffer by one read after the other, but never by more than two. A read may
get any number of bytes that there is room for, it may find that the peer is done, it may fail, and
it may be interrupted.

* `Tls.Failure.IsEnd`: a failed read that only says that the peer is done;
* `Event.piece`, `gained`, `decided`: what a read comes to, all bytes that have been got, and the
  reads that were not interrupted;
* `Reading`, `Session.emits_reading`: so many reads at most, one after the other;
* `Received`: what receiving into a buffer comes to;
* **`Session.emits_received`**: that is so whatever the reads are answered with.
-/

namespace SecureStream

variable {σ : Type} {E : Environment σ}

/-! ## Events -/

/-- The peer is done: it has closed the session, or the transport has ended without an error. -/
def Tls.Failure.IsEnd (e : Tls.Failure) : Prop :=
  e.code = .zeroReturn ∨ (e.code = .syscall ∧ e.systemError? = none)

instance (e : Tls.Failure) : Decidable e.IsEnd := by
  unfold Tls.Failure.IsEnd
  infer_instance

theorem Tls.Failure.isEndOfStream_iff (e : Tls.Failure) : e.isEndOfStream = true ↔ e.IsEnd := by
  simp [isEndOfStream, IsEnd]

namespace Event

/-- What a read of a session comes to: some bytes, none if the peer is done, or a failure. -/
def piece : Event → Except Tls.Failure (List UInt8)
  | ⟨.tlsRead _ _, .ok bytes⟩ => .ok bytes.val
  | ⟨.tlsRead _ _, .error e⟩ => if e.IsEnd then .ok [] else .error e
  | _ => .ok []

/-- The bytes that a read of a session has got. -/
def gained (ev : Event) : List UInt8 := ev.piece.toOption.getD []

theorem gained_of_piece {ev : Event} {bytes : List UInt8} (h : ev.piece = .ok bytes) :
    ev.gained = bytes := by
  rw [gained, h]
  rfl

theorem gained_of_isInterruption {ev : Event} (h : ev.isInterruption = true) :
    ev.gained = [] := by
  obtain ⟨op, a⟩ := ev
  cases op with
  | tlsRead s room =>
    cases a with
    | ok bytes => exact nomatch h
    | error e =>
      rw [gained, piece]
      split <;> rfl
  | _ => rfl

/-- A read gets no more than there is room for. -/
theorem length_gained_le (s : Socket) (room : Nat) (a : (Op.tlsRead s room).Answer) :
    (Event.mk (.tlsRead s room) a).gained.length ≤ room := by
  cases a with
  | ok bytes => exact bytes.property.2
  | error e =>
    rw [gained, piece]
    split <;> exact Nat.zero_le _

end Event

/-- The bytes that reads of a session have got, in order. -/
def gained (es : List Event) : List UInt8 := es.flatMap Event.gained

/-- The operations that were not interrupted. -/
def decided (es : List Event) : List Event := es.filter fun ev => !ev.isInterruption

@[simp] theorem gained_nil : gained [] = [] := rfl

@[simp] theorem gained_cons (ev : Event) (es : List Event) :
    gained (ev :: es) = ev.gained ++ gained es := List.flatMap_cons

theorem decided_cons_of_true {ev : Event} (h : ev.isInterruption = true) (es : List Event) :
    decided (ev :: es) = decided es := List.filter_cons_of_neg (by simp [h])

theorem decided_cons_of_false {ev : Event} (h : ev.isInterruption = false) (es : List Event) :
    decided (ev :: es) = ev :: decided es := List.filter_cons_of_pos (by simp [h])

/-! ## One read after the other -/

/-- At most so many reads of a session into some room. Each is made until it is not interrupted, and
the next one is for the room that is left. -/
inductive Reading (s : Socket) :
    Nat → Nat → List Event → Except Tls.Failure Unit × List UInt8 → Prop
  | done {count room} : count = 0 ∨ room = 0 → Reading s count room [] (.ok (), [])
  | interrupted {count room a es r} : 0 < room →
    (Event.mk (.tlsRead s room) a).isInterruption = true →
    Reading s (count + 1) room es r → Reading s (count + 1) room (⟨.tlsRead s room, a⟩ :: es) r
  | got {count room a bytes es r} : 0 < room →
    (Event.mk (.tlsRead s room) a).isInterruption = false →
    (Event.mk (.tlsRead s room) a).piece = .ok bytes →
    Reading s count (room - bytes.length) es r →
    Reading s (count + 1) room (⟨.tlsRead s room, a⟩ :: es) (r.1, bytes ++ r.2)
  | failed {count room a e} : 0 < room → (Event.mk (.tlsRead s room) a).isInterruption = false →
    (Event.mk (.tlsRead s room) a).piece = .error e →
    Reading s (count + 1) room [⟨.tlsRead s room, a⟩] (.error e, [])

/-- What receiving into a buffer comes to. Each read is for the room that the reads before it have
left. There is none without room, and otherwise there are one or two that are not interrupted. What
they have got stands in front of the buffer, and the rest of it is as it was. Receiving fails
exactly if one of the reads fails. -/
structure Received (s : Socket) (buffer : List UInt8) (es : List Event) (r : Receipt) : Prop where
  op_eq : ∀ before ev after, es = before ++ ev :: after →
    ev.op = .tlsRead s (buffer.length - (gained before).length) ∧
      (gained before).length < buffer.length
  eq_nil : buffer = [] → es = []
  /-- There is a second read exactly if the first has not failed and has left room, and never a
  third. -/
  reads : buffer ≠ [] → ∃ first rest, decided es = first :: rest ∧ rest.length ≤ 1 ∧
    (rest ≠ [] ↔ ∃ bytes, first.piece = .ok bytes ∧ bytes.length < buffer.length)
  /-- Interrupted reads get nothing. -/
  gained_eq : gained es = gained (decided es)
  buffer_eq : r.2 = gained es ++ buffer.drop (gained es).length
  length_le : (gained es).length ≤ buffer.length
  ok_iff : ∀ n, r.1 = .ok n ↔
    n = (gained es).length ∧ ∀ ev ∈ decided es, ∃ bytes, ev.piece = .ok bytes
  error_iff : ∀ e, r.1 = .error e ↔ ∃ ev ∈ decided es, ∃ e', ev.piece = .error e' ∧ e = .recv e'

namespace Reading

variable {s : Socket} {count room : Nat} {es : List Event}
  {r : Except Tls.Failure Unit × List UInt8}

/-- A read is for the room that is left, and there is some. -/
theorem op_eq (h : Reading s count room es r) {before after : List Event} {ev : Event}
    (hes : es = before ++ ev :: after) :
    ev.op = .tlsRead s (room - (gained before).length) ∧ (gained before).length < room := by
  induction h generalizing before with
  | done => exact absurd hes not_split_nil
  | interrupted hroom hinterrupted _ ih =>
    cases before with
    | nil =>
      obtain ⟨rfl, -⟩ := List.cons.inj hes
      exact ⟨rfl, hroom⟩
    | cons ev' before =>
      obtain ⟨rfl, hrest⟩ := List.cons.inj hes
      rw [gained_cons, Event.gained_of_isInterruption hinterrupted]
      exact ih hrest
  | got hroom _ hpiece _ ih =>
    cases before with
    | nil =>
      obtain ⟨rfl, -⟩ := List.cons.inj hes
      exact ⟨rfl, hroom⟩
    | cons ev' before =>
      obtain ⟨rfl, hrest⟩ := List.cons.inj hes
      obtain ⟨hop, hlt⟩ := ih hrest
      rw [gained_cons, Event.gained_of_piece hpiece, List.length_append]
      rw [Nat.sub_sub] at hop
      exact ⟨hop, by omega⟩
  | failed hroom =>
    obtain ⟨rfl, rfl, -⟩ := split_singleton hes
    exact ⟨rfl, hroom⟩

/-- What has been read is what the reads that were not interrupted have got. -/
theorem gained_eq (h : Reading s count room es r) :
    gained es = r.2 ∧ gained (decided es) = r.2 := by
  induction h with
  | done => exact ⟨rfl, rfl⟩
  | interrupted _ hinterrupted _ ih =>
    rw [gained_cons, decided_cons_of_true hinterrupted, Event.gained_of_isInterruption hinterrupted]
    exact ih
  | got _ hdecided hpiece _ ih =>
    rw [decided_cons_of_false hdecided, gained_cons, gained_cons, Event.gained_of_piece hpiece,
      ih.1, ih.2]
    exact ⟨rfl, rfl⟩
  | failed _ hdecided hpiece =>
    rw [decided_cons_of_false hdecided, gained_cons, gained_cons, Event.gained, hpiece]
    exact ⟨rfl, rfl⟩

theorem length_le (h : Reading s count room es r) : r.2.length ≤ room := by
  induction h with
  | done | failed => exact Nat.zero_le _
  | interrupted _ _ _ ih => exact ih
  | @got count room a bytes es r _ _ hpiece _ ih =>
    have hle := Event.length_gained_le s room a
    rw [Event.gained_of_piece hpiece] at hle
    rw [List.length_append]
    omega

/-- Reading fails exactly with the failure of a read. -/
theorem error_iff (h : Reading s count room es r) (e : Tls.Failure) :
    r.1 = .error e ↔ ∃ ev ∈ decided es, ev.piece = .error e := by
  induction h with
  | done => simp [decided]
  | interrupted _ hinterrupted _ ih => rwa [decided_cons_of_true hinterrupted]
  | got _ hdecided hpiece _ ih =>
    rw [decided_cons_of_false hdecided, ih]
    simp [hpiece]
  | failed _ hdecided hpiece =>
    rw [decided_cons_of_false hdecided]
    simp [decided, hpiece]

theorem ok_iff (h : Reading s count room es r) :
    r.1 = .ok () ↔ ∀ ev ∈ decided es, ∃ bytes, ev.piece = .ok bytes := by
  constructor
  · intro hok ev hev
    cases hpiece : ev.piece with
    | ok bytes => exact ⟨bytes, rfl⟩
    | error e => exact nomatch hok.symm.trans ((h.error_iff e).mpr ⟨ev, hev, hpiece⟩)
  · intro hall
    cases hr : r.1 with
    | ok _ => rfl
    | error e =>
      obtain ⟨ev, hev, hpiece⟩ := (h.error_iff e).mp hr
      obtain ⟨bytes, hpiece'⟩ := hall ev hev
      exact nomatch hpiece.symm.trans hpiece'

theorem length_decided_le (h : Reading s count room es r) : (decided es).length ≤ count := by
  induction h with
  | done => exact Nat.zero_le _
  | interrupted _ hinterrupted _ ih => rwa [decided_cons_of_true hinterrupted]
  | got _ hdecided _ _ ih =>
    rw [decided_cons_of_false hdecided, List.length_cons]
    omega
  | failed _ hdecided =>
    rw [decided_cons_of_false hdecided, List.length_cons]
    exact Nat.le_add_left 1 _

theorem eq_nil (h : Reading s count 0 es r) : es = [] := by
  cases h with
  | done => rfl
  | interrupted hroom | got hroom | failed hroom => exact absurd hroom (Nat.lt_irrefl 0)

/-- As long as there is room there is another read, and reading goes on behind it unless it
fails. -/
theorem exists_first (h : Reading s (count + 1) room es r) (hroom : 0 < room) :
    ∃ first es', decided es = first :: decided es' ∧
      ((∃ e, first.piece = .error e ∧ es' = []) ∨
        ∃ bytes r', first.piece = .ok bytes ∧ Reading s count (room - bytes.length) es' r') := by
  generalize hcount : count + 1 = n at h
  induction h with
  | done hdone => omega
  | interrupted _ hinterrupted _ ih =>
    rw [decided_cons_of_true hinterrupted]
    exact ih hroom hcount
  | got _ hdecided hpiece hrest =>
    obtain rfl := Nat.succ.inj hcount
    exact ⟨_, _, decided_cons_of_false hdecided _, .inr ⟨_, _, hpiece, hrest⟩⟩
  | failed _ hdecided hpiece =>
    exact ⟨_, [], decided_cons_of_false hdecided _, .inl ⟨_, hpiece, rfl⟩⟩

/-- A second read is made exactly if the first one has got something else than all there is room
for. -/
theorem reads (h : Reading s 2 room es r) (hroom : 0 < room) :
    ∃ first rest, decided es = first :: rest ∧ rest.length ≤ 1 ∧
      (rest ≠ [] ↔ ∃ bytes, first.piece = .ok bytes ∧ bytes.length < room) := by
  obtain ⟨first, es', hfirst, hrest⟩ := h.exists_first hroom
  refine ⟨first, decided es', hfirst, ?_, ?_⟩
  · have hle := h.length_decided_le
    rw [hfirst, List.length_cons] at hle
    omega
  · rcases hrest with ⟨e, hpiece, rfl⟩ | ⟨bytes, r', hpiece, hrest⟩
    · simp [decided, hpiece]
    · by_cases hlt : bytes.length < room
      · obtain ⟨second, es'', hsecond, -⟩ := hrest.exists_first (Nat.sub_pos_of_lt hlt)
        rw [hsecond]
        exact ⟨fun _ => ⟨bytes, hpiece, hlt⟩, fun _ => List.cons_ne_nil _ _⟩
      · rw [Nat.sub_eq_zero_of_le (Nat.le_of_not_lt hlt)] at hrest
        rw [hrest.eq_nil, hpiece]
        refine ⟨fun h => absurd rfl h, fun ⟨bytes', heq, hlt'⟩ => ?_⟩
        obtain rfl := Except.ok.inj heq
        exact absurd hlt' hlt

/-- A read that is made until it is not interrupted goes before the reads behind it. -/
theorem of_persisted {es₁ es₂ : List Event} {a : (Op.tlsRead s room).Answer}
    (h : Persisted (.tlsRead s room) es₁ a) (hroom : 0 < room)
    (hrest : (Event.mk (.tlsRead s room) a).isInterruption = false →
      Reading s (count + 1) room (⟨.tlsRead s room, a⟩ :: es₂) r) :
    Reading s (count + 1) room (es₁ ++ es₂) r := by
  obtain ⟨interruptions, hinterruptions, hdecided, rfl⟩ := h
  induction interruptions with
  | nil => exact hrest hdecided
  | cons b interruptions ih =>
    obtain ⟨hb, hinterruptions⟩ := List.forall_mem_cons.mp hinterruptions
    exact .interrupted hroom hb (ih hinterruptions)

/-- Receiving answers with what has been read, in front of the buffer. -/
theorem received {buffer : List UInt8} (h : Reading s 2 buffer.length es r)
    (hbuffer : buffer ≠ []) : Received s buffer es
      ((r.1.map fun _ => r.2.length).mapError .recv, Transport.overwrite buffer r.2) where
  op_eq _ _ _ hes := h.op_eq hes
  eq_nil hnil := absurd hnil hbuffer
  reads _ := h.reads (List.length_pos_iff.mpr hbuffer)
  gained_eq := h.gained_eq.1.trans h.gained_eq.2.symm
  buffer_eq := by
    rw [h.gained_eq.1]
    rfl
  length_le := by
    rw [h.gained_eq.1]
    exact h.length_le
  ok_iff n := by
    have hok : (r.1.map fun _ => r.2.length).mapError ConnectionError.recv = .ok n ↔
        n = r.2.length ∧ r.1 = .ok () := by
      obtain ⟨_ | _, bytes⟩ := r <;> simp [Except.map, Except.mapError, eq_comm]
    rw [h.gained_eq.1, ← h.ok_iff]
    exact hok
  error_iff e := by
    have hrecv : (r.1.map fun _ => r.2.length).mapError .recv = .error e ↔
        ∃ e', r.1 = .error e' ∧ e = .recv e' := by
      obtain ⟨_ | _, bytes⟩ := r <;> simp [Except.map, Except.mapError, eq_comm]
    refine hrecv.trans ⟨?_, ?_⟩
    · rintro ⟨e', he', rfl⟩
      obtain ⟨ev, hev, hpiece⟩ := (h.error_iff e').mp he'
      exact ⟨ev, hev, e', hpiece, rfl⟩
    · rintro ⟨ev, hev, e', hpiece, rfl⟩
      exact ⟨e', (h.error_iff e').mpr ⟨ev, hev, hpiece⟩, rfl⟩

end Reading

/-- There is nothing to be received into an empty buffer. -/
theorem Received.nil (s : Socket) : Received s [] [] (.ok 0, []) where
  op_eq _ _ _ hes := absurd hes not_split_nil
  eq_nil _ := rfl
  reads h := absurd rfl h
  gained_eq := rfl
  buffer_eq := rfl
  length_le := Nat.le_refl 0
  ok_iff n := by simp [decided, eq_comm]
  error_iff e := by simp [decided]

/-! ## Sessions -/

namespace Session

theorem emits_readRecord_piece (s : Socket) (room : Nat) :
    Emits E (readRecord E s room) fun es o => ∃ a, Persisted (.tlsRead s room) es a ∧
      (Event.mk (.tlsRead s room) a).piece = o := by
  unfold readRecord
  refine (emits_persist E (.tlsRead s room)).bind fun es a hes => ?_
  rw [← List.append_nil es] at hes
  cases a with
  | ok bytes => exact .pure ⟨_, hes, rfl⟩
  | error e =>
    dsimp only
    split
    · next hend => exact .pure ⟨_, hes, if_pos (e.isEndOfStream_iff.mp hend)⟩
    · next hend => exact .pure ⟨_, hes, if_neg (mt e.isEndOfStream_iff.mpr hend)⟩

theorem emits_reading (s : Socket) {room : Nat} (hroom : 0 < room) :
    Emits E (readTwice E s room) (Reading s 2 room) := by
  unfold readTwice
  refine (emits_readRecord_piece s room).bind fun es o ⟨a, hes, hpiece⟩ => ?_
  cases o with
  | error e => exact .pure (.of_persisted hes hroom fun hdecided => .failed hroom hdecided hpiece)
  | ok first =>
    dsimp only
    split
    · next hlt =>
      have hroom' : 0 < room - first.length := Nat.sub_pos_of_lt hlt
      refine (emits_readRecord_piece s _).bind fun es' o ⟨a', hes', hpiece'⟩ => ?_
      cases o with
      | error e =>
        have hsecond : Reading s 1 (room - first.length) (es' ++ []) (.error e, []) :=
          .of_persisted hes' hroom' fun hdecided => .failed hroom' hdecided hpiece'
        refine .pure (.of_persisted hes hroom fun hdecided => ?_)
        rw [← List.append_nil first]
        exact .got hroom hdecided hpiece hsecond
      | ok second =>
        have hsecond : Reading s 1 (room - first.length) (es' ++ []) (.ok (), second ++ []) :=
          .of_persisted hes' hroom' fun hdecided => .got hroom' hdecided hpiece' (.done (.inl rfl))
        rw [List.append_nil second] at hsecond
        exact .pure (.of_persisted hes hroom fun hdecided => .got hroom hdecided hpiece hsecond)
    · next hge =>
      refine .pure (.of_persisted hes hroom fun hdecided => ?_)
      rw [← List.append_nil first]
      exact .got hroom hdecided hpiece
        (.done (.inr (Nat.sub_eq_zero_of_le (Nat.le_of_not_lt hge))))

/-- **Receiving into a buffer reads at most twice, and what it gets is what the reads get.** -/
theorem emits_received (s : Session) (buffer : List UInt8) :
    Emits E (s.recv E buffer) (Received s.socket buffer) := by
  unfold recv
  split
  · next hbuffer =>
    subst hbuffer
    exact .pure (.nil s.socket)
  · next hbuffer =>
    refine (emits_reading s.socket (List.length_pos_iff.mpr hbuffer)).bind fun es ⟨r, bytes⟩ h => ?_
    have hreceived := h.received hbuffer
    rw [← List.append_nil es] at hreceived
    cases r with
    | error e => exact .pure hreceived
    | ok _ => exact .say_bind (.pure hreceived)

end Session

end SecureStream
