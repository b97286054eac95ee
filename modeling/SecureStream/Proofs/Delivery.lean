import Mathlib.Data.List.Forall2
import SecureStream.Proofs.Lifecycle

/-!
# What becomes of bytes that are sent

Bytes are offered to the peer in one write after the other, until all of them have been taken or a
write fails. A write may take any number of them, and it may be interrupted.

* `accepted`: the bytes that have been taken;
* `Sent`: what is known of one write after the other;
* **`Writing.sent`**: the bytes that have been taken are never offered again, and those that have
  not are offered next;
* `Client.writeOp?`, `Client.emits_delivers`: the same of what a client sends;
* `Delivery`, **`conversation_delivery`**: the bytes that the peer takes are those that were sent.
-/

namespace SecureStream

variable {σ : Type} {E : Environment σ}

/-! ## Events -/

namespace Event

theorem accepted_append_drop (ev : Event) :
    ev.accepted ++ ev.offered.drop ev.accepted.length = ev.offered := by
  have htake (bytes : List UInt8) (n : Nat) :
      bytes.take n ++ bytes.drop (bytes.take n).length = bytes := by
    by_cases hle : n ≤ bytes.length
    · rw [List.length_take, Nat.min_eq_left hle, List.take_append_drop]
    · rw [List.take_of_length_le (by omega), List.drop_length, List.append_nil]
  obtain ⟨op, a⟩ := ev
  cases op with
  | write s bytes | tlsWrite s bytes =>
    cases a with
    | error e => rfl
    | ok last => exact htake bytes _
  | _ => rfl

theorem accepted_of_sendError {ev : Event} {e : ConnectionError} (h : ev.sendError? = some e) :
    ev.accepted = [] := by
  obtain ⟨op, a⟩ := ev
  cases op with
  | write | tlsWrite =>
    cases a with
    | error => rfl
    | ok => exact nomatch h
  | _ => rfl

theorem accepted_of_isInterruption {ev : Event} (h : ev.isInterruption = true) :
    ev.accepted = [] := by
  obtain ⟨op, a⟩ := ev
  cases op with
  | write | tlsWrite =>
    cases a with
    | error => rfl
    | ok => exact nomatch h
  | _ => rfl

end Event

/-- The bytes that have been taken, in order. -/
def accepted (es : List Event) : List UInt8 := es.flatMap Event.accepted

@[simp] theorem accepted_nil : accepted [] = [] := rfl

@[simp] theorem accepted_cons (ev : Event) (es : List Event) :
    accepted (ev :: es) = ev.accepted ++ accepted es := List.flatMap_cons

theorem accepted_of_not_isWrite {es : List Event} (h : ∀ ev ∈ es, ev.op.isWrite = false) :
    accepted es = [] := by
  refine List.flatMap_eq_nil_iff.mpr fun ev hev => ?_
  obtain ⟨op, a⟩ := ev
  cases op with
  | write | tlsWrite => exact nomatch h _ hev
  | _ => rfl

theorem not_isWrite_of_isOpening {es : List Event} (h : ∀ ev ∈ es, ev.op.IsOpening) :
    ∀ ev ∈ es, ev.op.isWrite = false := by
  intro ev hev
  obtain ⟨op, a⟩ := ev
  have hop := h _ hev
  cases op with
  | write | tlsWrite => exact (hop.elim id id).elim
  | _ => rfl

/-! ## One write after the other -/

/-- What sending a payload by one operation comes to. Each write is offered what the writes before
it have not taken, and there is none without bytes. Sending succeeds exactly if all bytes have been
taken. It fails exactly if a write fails for good, which is then the last one. -/
structure Sent (op : List UInt8 → Op) (payload : List UInt8) (es : List Event)
    (r : Except ConnectionError Unit) : Prop where
  op_eq : ∀ ev ∈ es, ev.op = op ev.offered
  offered : ∀ before ev after, es = before ++ ev :: after →
    accepted before ++ ev.offered = payload ∧ ev.offered ≠ []
  isPrefix : accepted es <+: payload
  ok_iff : r = .ok () ↔ accepted es = payload
  error_iff : ∀ e, r = .error e ↔ ∃ before ev after, es = before ++ ev :: after ∧
    ev.isInterruption = false ∧ ev.sendError? = some e
  last : ∀ before ev after e, es = before ++ ev :: after → ev.isInterruption = false →
    ev.sendError? = some e → after = []
  eq_nil : payload = [] → es = []

namespace Writing

variable {op : List UInt8 → Op} {payload : List UInt8} {es : List Event}
  {r : Except ConnectionError Unit}

/-- Before a write, all that is left of the payload has been offered to it. -/
theorem accepted_append_offered (hop : ∀ bytes a, (Event.mk (op bytes) a).offered = bytes)
    (h : Writing op payload es r) {before after : List Event} {ev : Event}
    (hes : es = before ++ ev :: after) :
    accepted before ++ ev.offered = payload ∧ ev.offered ≠ [] := by
  induction h generalizing before with
  | done => exact absurd hes not_split_nil
  | @interrupted bytes a es r hne hinterrupted _ ih =>
    cases before with
    | nil =>
      obtain ⟨rfl, -⟩ := List.cons.inj hes
      rw [hop]
      exact ⟨rfl, hne⟩
    | cons ev' before =>
      obtain ⟨rfl, hrest⟩ := List.cons.inj hes
      rw [accepted_cons, Event.accepted_of_isInterruption hinterrupted]
      exact ih hrest
  | @taken bytes a es r hne _ _ _ ih =>
    cases before with
    | nil =>
      obtain ⟨rfl, -⟩ := List.cons.inj hes
      rw [hop]
      exact ⟨rfl, hne⟩
    | cons ev' before =>
      obtain ⟨rfl, hrest⟩ := List.cons.inj hes
      obtain ⟨hoffered, hne'⟩ := ih hrest
      have htaken := (Event.mk (op bytes) a).accepted_append_drop
      rw [hop] at htaken
      refine ⟨?_, hne'⟩
      rw [accepted_cons, List.append_assoc, hoffered, htaken]
  | @failed bytes a e hne =>
    obtain ⟨rfl, rfl, -⟩ := split_singleton hes
    rw [hop]
    exact ⟨rfl, hne⟩

/-- What the writes have taken and what is left at a failure is the payload. -/
theorem exists_rest (hop : ∀ bytes a, (Event.mk (op bytes) a).offered = bytes)
    (h : Writing op payload es r) :
    ∃ rest, accepted es ++ rest = payload ∧ (r = .ok () ↔ rest = []) := by
  induction h with
  | done => exact ⟨[], rfl, by simp⟩
  | interrupted _ hinterrupted _ ih =>
    rwa [accepted_cons, Event.accepted_of_isInterruption hinterrupted]
  | @taken bytes a es r _ _ _ _ ih =>
    obtain ⟨rest, heq, hr⟩ := ih
    have htaken := (Event.mk (op bytes) a).accepted_append_drop
    rw [hop] at htaken
    refine ⟨rest, ?_, hr⟩
    rw [accepted_cons, List.append_assoc, heq, htaken]
  | @failed bytes a e hne _ herror =>
    refine ⟨bytes, ?_, by simp [hne]⟩
    rw [accepted_cons, Event.accepted_of_sendError herror]
    rfl

/-- A write that fails for good is the last one, and its error is that of sending. -/
theorem eq_of_sendError (h : Writing op payload es r) {before after : List Event} {ev : Event}
    {e : ConnectionError} (hes : es = before ++ ev :: after) (hdecided : ev.isInterruption = false)
    (herror : ev.sendError? = some e) : r = .error e ∧ after = [] := by
  induction h generalizing before with
  | done => exact absurd hes not_split_nil
  | interrupted _ hinterrupted _ ih =>
    cases before with
    | nil =>
      obtain ⟨rfl, -⟩ := List.cons.inj hes
      rw [hinterrupted] at hdecided
      exact nomatch hdecided
    | cons ev' before => exact ih (List.cons.inj hes).2
  | taken _ _ hnone _ ih =>
    cases before with
    | nil =>
      obtain ⟨rfl, -⟩ := List.cons.inj hes
      rw [hnone] at herror
      exact nomatch herror
    | cons ev' before => exact ih (List.cons.inj hes).2
  | failed _ _ herror' =>
    obtain ⟨rfl, rfl, rfl⟩ := split_singleton hes
    rw [herror'] at herror
    rw [Option.some.inj herror]
    exact ⟨rfl, rfl⟩

theorem exists_of_error (h : Writing op payload es r) {e : ConnectionError} (hr : r = .error e) :
    ∃ before ev after, es = before ++ ev :: after ∧ ev.isInterruption = false ∧
      ev.sendError? = some e := by
  induction h with
  | done => exact nomatch hr
  | interrupted _ _ _ ih | taken _ _ _ _ ih =>
    obtain ⟨before, ev, after, rfl, hev⟩ := ih hr
    exact ⟨_ :: before, ev, after, rfl, hev⟩
  | failed _ hdecided herror =>
    rw [← Except.error.inj hr]
    exact ⟨[], _, [], rfl, hdecided, herror⟩

/-- **One write after the other takes up the payload where the one before has left it.** -/
theorem sent (hop : ∀ bytes a, (Event.mk (op bytes) a).offered = bytes)
    (h : Writing op payload es r) : Sent op payload es r := by
  obtain ⟨rest, hrest, hr⟩ := h.exists_rest hop
  refine ⟨h.op_eq hop, fun _ _ _ hes => h.accepted_append_offered hop hes, ⟨rest, hrest⟩, ?_,
    fun e => ⟨h.exists_of_error, ?_⟩, ?_, ?_⟩
  · rw [hr, ← hrest]
    exact List.self_eq_append_right.symm
  · rintro ⟨before, ev, after, hes, hdecided, herror⟩
    exact (h.eq_of_sendError hes hdecided herror).1
  · exact fun _ _ _ _ hes hdecided herror => (h.eq_of_sendError hes hdecided herror).2
  · intro hnil
    cases h with
    | done => rfl
    | interrupted hne | taken hne | failed hne => exact absurd hnil hne

end Writing

/-! ## What is sent over sessions and plain connections -/

theorem Session.emits_sent (s : Session) (payload : List UInt8) :
    Emits E (s.send E payload) (Sent (.tlsWrite s.socket) payload) := by
  unfold send
  refine ((writesAll s.socket).emits payload).bind fun es r hes => ?_
  have hsent := hes.sent fun _ _ => rfl
  rw [← List.append_nil es] at hsent
  cases r with
  | error e => exact .pure hsent
  | ok _ => exact .say_bind (.pure hsent)

theorem Transport.emits_sent {t : Transport} {s : Socket} (ht : t.stream = some s)
    (payload : List UInt8) :
    Emits E (t.send E payload) fun es r => Sent (.write s) payload es (r.mapError .transport) := by
  unfold send
  rw [ht]
  refine ((writesAll s).emits payload).bind fun es r hes => ?_
  have hsent := hes.sent fun _ _ => rfl
  rw [← List.append_nil es] at hsent
  cases r with
  | error e => exact .pure hsent
  | ok _ => exact .say_bind (.pure hsent)

/-! ## Clients -/

namespace Client

/-- How the client writes: records of its session if there is one, else to its connection. -/
def writeOp? (c : Client) : Option (List UInt8 → Op) :=
  match c.session with
  | some s => some (.tlsWrite s.socket)
  | none => c.transport.stream.map .write

/-- What a call does to bytes for the peer: sending moves them as far as they are taken, and nothing
else does. -/
def Delivers (c : Client) : (call : Call) → List Event → call.Reply × Client → Prop
  | .send payload, es, r => ∀ op, c.writeOp? = some op → Sent op payload es r.1
  | _, es, _ => accepted es = []

variable {c : Client}

theorem writeOp?_of_isSome (hc : c.Coherent) (hstream : c.transport.stream.isSome = true) :
    ∃ s, c.carrier? = some s ∧
      c.writeOp? = some (if c.endpoint.tls then .tlsWrite s else .write s) := by
  have hsession := hc.session
  rw [hstream, Bool.and_true] at hsession
  cases htls : c.endpoint.tls with
  | true =>
    obtain ⟨s, hs⟩ := Option.isSome_iff_exists.mp (hsession.trans htls)
    exact ⟨s.socket, by rw [carrier?, hs], by rw [writeOp?, hs]; rfl⟩
  | false =>
    obtain ⟨s, hs⟩ := Option.isSome_iff_exists.mp hstream
    have hsession := hc.session_eq_none htls
    exact ⟨s, by rw [carrier?, hsession, hs], by rw [writeOp?, hsession, hs]; rfl⟩

/-- To connect and to close, nothing is written. -/
theorem Move.not_isWrite {call : Call} {es : List Event} {r : call.Reply × Client}
    (h : Move c call es r) (hcall : call.isTransfer = false) :
    ∀ ev ∈ es, ev.op.isWrite = false := by
  cases h with
  | opening _ _ _ _ h => exact not_isWrite_of_isOpening h.opening.isOpening
  | connecting _ _ h =>
    exact not_isWrite_of_isOpening fun ev hev => (h.isConnecting ev hev).isOpening
  | unsent | unreceived => exact nomatch hcall
  | records htransfer | raw htransfer =>
    rw [htransfer] at hcall
    exact nomatch hcall
  | closeSession | closeTransport => simp [Op.isWrite]
  | openAlready | closeNothing => exact fun _ hev => absurd hev List.not_mem_nil

theorem emits_delivers (hc : c.Coherent) (call : Call) :
    Emits E (c.answer E call) (c.Delivers call) := by
  cases call with
  | connect msg =>
    exact (emits_answer hc _).mono fun _ _ h => accepted_of_not_isWrite (h.not_isWrite rfl)
  | close => exact (emits_answer hc _).mono fun _ _ h => accepted_of_not_isWrite (h.not_isWrite rfl)
  | send payload =>
    change Emits E (c.send E payload >>= fun r => pure (r, c)) _
    cases hsession : c.session with
    | some s =>
      rw [send_of_session hsession]
      refine (s.emits_sent payload).bind fun es r hes => .pure fun op hop => ?_
      rw [writeOp?, hsession] at hop
      rw [List.append_nil, ← Option.some.inj hop]
      exact hes
    | none =>
      cases hstream : c.transport.stream with
      | none =>
        rw [send_unconnected hsession hstream]
        refine .pure fun op hop => ?_
        rw [writeOp?, hsession, hstream] at hop
        exact nomatch hop
      | some s =>
        rw [send_of_no_session hsession]
        refine ((Transport.emits_sent hstream payload).bind fun es r hes => ?_).bind
          (P := fun es r => Sent (.write s) payload es r) fun es r hes => .pure fun op hop => ?_
        · exact .pure (by rwa [List.append_nil])
        · rw [writeOp?, hsession, hstream] at hop
          rw [List.append_nil, ← Option.some.inj hop]
          exact hes
  | recv buffer =>
    have hread {f : Act σ (Except ConnectionError Nat × List UInt8)}
        (h : EmitsOnly E f fun op => op.isWrite = false) :
        Emits E (f >>= fun r => pure (r, c)) (c.Delivers (.recv buffer)) :=
      (h.bind fun _ => .pure).mono fun _ _ hes => accepted_of_not_isWrite hes
    change Emits E (c.recv E buffer >>= fun r => pure (r, c)) _
    cases hsession : c.session with
    | some s =>
      rw [recv_of_session hsession]
      exact hread (s.emits_recv buffer fun _ => rfl)
    | none =>
      cases hstream : c.transport.stream with
      | none =>
        rw [recv_unconnected hsession hstream]
        exact hread .pure
      | some s =>
        rw [recv_of_no_session hsession]
        exact hread ((Transport.emits_recv hstream buffer fun _ => rfl).bind fun _ => .pure)

/-- What is sent before the client has been opened, is not, and nothing is done. -/
theorem Move.unsent_of_no_stream {payload : List UInt8} {es : List Event}
    {r : (Call.send payload).Reply × Client} (h : Move c (.send payload) es r) (hc : c.Coherent)
    (hstream : c.transport.stream = none) :
    r.1 = .error (.transport .notConnected) ∧ es = [] := by
  have hsession := hc.session
  rw [hstream, Option.isSome_none, Bool.and_false] at hsession
  cases h with
  | unsent => exact ⟨rfl, rfl⟩
  | records _ hs => rw [hs] at hsession; exact nomatch hsession
  | raw _ _ hsome => rw [hstream] at hsome; exact nomatch hsome

end Client

/-! ## All calls -/

/-- The bytes are what the peer may have got of an exchange: what was sent, or the front of it if
sending has failed. -/
def Exchange.Delivered : Exchange → List UInt8 → Prop
  | ⟨.send payload, .ok (), _⟩, bytes => bytes = payload
  | ⟨.send payload, .error _, _⟩, bytes => bytes <+: payload
  | _, bytes => bytes = []

/-- What becomes of bytes that are sent while the client is open, over the connection that the last
call to connect has made, and while it is not, and what the peer gets of all exchanges. -/
structure Delivery (endpoint : Endpoint) (t : Conversation) : Prop where
  sent : ∀ before payload r es after, t.exchanges = before ++ ⟨.send payload, r, es⟩ :: after →
    Opened before → ∃ s, lastSocket? before = some s ∧
      Sent (if endpoint.tls then .tlsWrite s else .write s) payload es r
  unsent : ∀ before payload r es after, t.exchanges = before ++ ⟨.send payload, r, es⟩ :: after →
    ¬ Opened before → r = .error (.transport .notConnected) ∧ es = []
  delivered : ∃ parts, List.Forall₂ Exchange.Delivered t.exchanges parts ∧
    accepted t.events = parts.flatten

section

variable {κ : Type} [DecidableEq κ] {clients : κ → Client} {k : κ}

/-- What one exchange says about bytes that are sent in it. -/
structure Exchange.Posted (endpoint : Endpoint) (before : List Exchange) (x : Exchange) : Prop where
  sent : ∀ payload r es, x = ⟨.send payload, r, es⟩ → Opened before →
    ∃ s, lastSocket? before = some s ∧
      Sent (if endpoint.tls then .tlsWrite s else .write s) payload es r
  unsent : ∀ payload r es, x = ⟨.send payload, r, es⟩ → ¬ Opened before →
    r = .error (.transport .notConnected) ∧ es = []
  delivered : x.Delivered (accepted x.events)

theorem Client.Move.posted {c : Client} {call : Call} {es : List Event} {r : call.Reply × Client}
    {before : List Exchange} (h : Move c call es r) (hdelivers : c.Delivers call es r)
    (hc : c.Coherent) (hopened : c.transport.stream.isSome = true ↔ Opened before)
    (hsocket : ∀ s, c.carrier? = some s → lastSocket? before = some s) :
    Exchange.Posted c.endpoint before ⟨call, r.1, es⟩ := by
  cases call with
  | send payload =>
    by_cases hstream : c.transport.stream.isSome = true
    · obtain ⟨s, hcarrier, hop⟩ := writeOp?_of_isSome hc hstream
      have hsent := hdelivers _ hop
      refine ⟨?_, ?_, ?_⟩
      · rintro _ _ _ heq -
        cases heq
        exact ⟨s, hsocket s hcarrier, hsent⟩
      · exact fun _ _ _ _ hnot => absurd (hopened.mp hstream) hnot
      · rcases r with ⟨e | u, c'⟩
        · exact hsent.isPrefix
        · exact hsent.ok_iff.mp rfl
    · have hnone := Option.isNone_iff_eq_none.mp (Option.isSome_eq_false_iff.mp
        (eq_false_of_ne_true hstream))
      obtain ⟨hr, rfl⟩ := h.unsent_of_no_stream hc hnone
      refine ⟨?_, ?_, ?_⟩
      · exact fun _ _ _ _ hbefore => absurd (hopened.mpr hbefore) hstream
      · rintro _ _ _ heq -
        cases heq
        exact ⟨hr, rfl⟩
      · rw [hr]
        exact List.nil_prefix
  | _ => exact ⟨fun _ _ _ heq => (by cases heq), fun _ _ _ heq => (by cases heq), hdelivers⟩

/-- **Whatever is asked of a client and whatever happens, the peer gets what was sent, in order, and
of what could not be sent the front. Sending succeeds exactly if the peer has got everything.** -/
theorem conversation_delivery {endpoint : Endpoint} {context : Option Context}
    (hnew : Client.new endpoint context = .ok (clients k)) (calls : List (κ × Call)) (w : World σ) :
    Delivery endpoint (conversation E clients calls w k) := by
  have hnew' := Client.isNew_of_new hnew
  have hposted : ∀ before x after,
      (conversation E clients calls w k).exchanges = before ++ x :: after →
        x.Posted endpoint before := by
    intro before x after h
    refine conversation_exchange_of_emits (E := E) (P := fun t => t.client.endpoint = endpoint ∧
      (t.client.transport.stream.isSome = true ↔ Opened t.exchanges) ∧
      ∀ s, t.client.carrier? = some s → lastSocket? t.exchanges = some s) hnew'.coherent
      (fun _ call hc => Client.emits_delivers hc call) ⟨hnew'.endpoint_eq, ?_, ?_⟩
      (fun t call es r hc ⟨hendpoint, hopened, hsocket⟩ hmove hdelivers _ => ⟨⟨?_, ?_, ?_⟩, ?_⟩)
      calls w h
    · simp [Conversation.start, hnew'.stream_eq, Opened.not_nil]
    · simp [Conversation.start, Client.carrier?, hnew'.session_eq, hnew'.stream_eq]
    · rw [hmove.endpoint_eq, hendpoint]
    · rw [hmove.isSome_stream_iff, Opened.concat_iff, hopened]
    · exact fun s hs => hmove.lastSocket?_concat hc hsocket hs
    · rw [← hendpoint]
      exact hmove.posted hdelivers hc hopened hsocket
  refine ⟨fun before payload r es after h => (hposted before _ after h).sent payload r es rfl,
    fun before payload r es after h => (hposted before _ after h).unsent payload r es rfl,
    (conversation E clients calls w k).exchanges.map fun x => accepted x.events, ?_, ?_⟩
  · rw [List.forall₂_map_right_iff, List.forall₂_same]
    intro x hx
    obtain ⟨before, after, h⟩ := List.append_of_mem hx
    exact (hposted before x after h).delivered
  · rw [Conversation.events, accepted, List.flatMap_assoc, List.flatMap_def]
    rfl

theorem conversation_delivery_loopback :
    (Client.new Peer.Loopback.endpoint (some (Peer.Loopback.context .strict)) =
      .ok (Peer.Loopback.clients .strict true)) ∧
    Delivery Peer.Loopback.endpoint
      (conversation Peer.Network.environment (Peer.Loopback.clients .strict)
        [(true, .send [1]), (true, .connect "first"), (false, .send [2]), (true, .send [3, 4]),
          (true, .send []), (true, .send [5])] (.start (Peer.Loopback.network [])) true) ∧
    accepted (conversation Peer.Network.environment (Peer.Loopback.clients .strict)
      [(true, .send [1]), (true, .connect "first"), (false, .send [2]), (true, .send [3, 4]),
        (true, .send []), (true, .send [5])]
      (.start (Peer.Loopback.network [])) true).events = [3, 4, 5] :=
  have hnew := Peer.Loopback.new_eq .strict true
  ⟨hnew, conversation_delivery hnew _ _, by decide +kernel⟩

end

end SecureStream
