import Mathlib.Logic.Function.Basic
import SecureStream.Proofs.Opening
import SecureStream.Proofs.Traffic

/-!
# Conversations with clients

Callers ask clients to connect, send, receive and close, in any order. Several clients may share a
world, and are then asked in turn.

* `Call`, `Exchange`, `Conversation`: what is asked of a client, and a client with all that was
  asked of it;
* `Client.answer`, `Conversation.ask`: one call;
* `converse`, `conversation`: any number of calls of any clients, and what has passed with one of
  them;
* `Client.Coherent`: a session is there exactly if a connection of a client over TLS is there;
* `Client.Move`, **`Client.emits_answer`**: everything that a client may do about one call;
* `Client.Move.coherent`, **`conversation_induction`**, `conversation_induction_of_new`: what one
  call keeps, and what is therefore kept by all calls;
* `conversation_exchange`: what is so of every exchange;
* `conversation_induction_of_emits`, `conversation_exchange_of_emits`: the same where more is known
  of a call.
-/

namespace SecureStream

variable {σ : Type} {E : Environment σ}

/-- What a caller may ask of a client. -/
inductive Call
  | connect (msg : String)
  | send (bytes : List UInt8)
  | recv (buffer : List UInt8)
  | close
  deriving DecidableEq

/-- What a call is answered with. Receiving also gives back the buffer. -/
abbrev Call.Reply : Call → Type
  | connect _ => Except ConnectionError Unit
  | send _ => Except ConnectionError Unit
  | recv _ => Except ConnectionError Nat × List UInt8
  | close => Except ConnectionError Unit

/-- The call moves bytes. -/
def Call.isTransfer : Call → Bool
  | send _ | recv _ => true
  | _ => false

/-- A call, the answer to it, and what has happened in between. -/
structure Exchange where
  call : Call
  reply : call.Reply
  events : List Event

/-- A client, and all that has been asked of it. -/
structure Conversation where
  client : Client
  exchanges : List Exchange

namespace Conversation

/-- Nothing has been asked of the client. -/
def start (c : Client) : Conversation := ⟨c, []⟩

/-- What has happened on behalf of the client. -/
def events (t : Conversation) : List Event := t.exchanges.flatMap Exchange.events

end Conversation

section

variable (E)

/-- Answer one call. -/
def Client.answer (c : Client) : (call : Call) → Act σ (call.Reply × Client)
  | .connect msg => c.connect E msg
  | .send bytes => do return (← c.send E bytes, c)
  | .recv buffer => do return (← c.recv E buffer, c)
  | .close => c.close E

/-- Ask one thing more of a client. -/
def Conversation.ask (t : Conversation) (call : Call) : Act σ Conversation := fun w =>
  let ((reply, client), w') := t.client.answer E call w
  (⟨client, t.exchanges ++ [⟨call, reply, w'.since w⟩]⟩, w')

variable {κ : Type} [DecidableEq κ]

/-- Ask one client after the other. -/
def converse (talks : κ → Conversation) : List (κ × Call) → Act σ (κ → Conversation)
  | [] => return talks
  | (k, call) :: rest => do
    let t ← (talks k).ask E call
    converse (Function.update talks k t) rest

/-- What has passed with one of some clients after some calls of them. -/
def conversation (clients : κ → Client) (calls : List (κ × Call)) (w : World σ) (k : κ) :
    Conversation :=
  (converse E (fun k => .start (clients k)) calls w).1 k

end

/-! ## What one call may do -/

namespace Client

/-- A session is there exactly if the connection of a client over TLS is there. -/
structure Coherent (c : Client) : Prop where
  context : c.endpoint.tls = true → c.context.isSome = true
  session : c.session.isSome = (c.endpoint.tls && c.transport.stream.isSome)

/-- The client has been made and nothing else. -/
structure IsNew (c : Client) (endpoint : Endpoint) (context : Option Context) : Prop where
  endpoint_eq : c.endpoint = endpoint
  context_eq : c.context = context
  context_isSome : endpoint.tls = true → context.isSome = true
  session_eq : c.session = none
  stream_eq : c.transport.stream = none

/-- A client over TLS is made only with a name and a context, and every client is made closed. -/
theorem new_eq_ok_iff {c : Client} {endpoint : Endpoint} {context : Option Context} :
    Client.new endpoint context = .ok c ↔
      (endpoint.tls = true → endpoint.remoteName ≠ "" ∧ context.isSome = true) ∧
        c = ⟨endpoint, context, endpoint.transport, none⟩ := by
  rw [new, eq_comm (a := c)]
  cases endpoint.tls with
  | false => simp
  | true => by_cases hname : endpoint.remoteName = "" <;> cases context <;> simp [hname]

theorem isNew_of_new {c : Client} {endpoint : Endpoint} {context : Option Context}
    (h : Client.new endpoint context = .ok c) : c.IsNew endpoint context := by
  obtain ⟨hcontext, rfl⟩ := new_eq_ok_iff.mp h
  exact ⟨rfl, rfl, fun htls => (hcontext htls).2, rfl, rfl⟩

theorem Coherent.isSome_session {c : Client} (hc : c.Coherent) (htls : c.endpoint.tls = true) :
    c.session.isSome = c.transport.stream.isSome := by
  rw [hc.session, htls, Bool.true_and]

theorem Coherent.session_eq_none {c : Client} (hc : c.Coherent) (htls : c.endpoint.tls = false) :
    c.session = none := by
  have h := hc.session
  rw [htls, Bool.false_and] at h
  exact Option.isNone_iff_eq_none.mp (Option.isSome_eq_false_iff.mp h)

/-- Without a session there is no connection of a client over TLS. -/
theorem Coherent.stream_eq_none {c : Client} (hc : c.Coherent) (htls : c.endpoint.tls = true)
    (hsession : c.session = none) : c.transport.stream = none := by
  have h := hc.isSome_session htls
  rw [hsession] at h
  exact Option.isNone_iff_eq_none.mp (Option.isSome_eq_false_iff.mp h.symm)

theorem IsNew.coherent {c : Client} {endpoint : Endpoint} {context : Option Context}
    (h : c.IsNew endpoint context) : c.Coherent := by
  constructor
  · rw [h.endpoint_eq, h.context_eq]
    exact h.context_isSome
  · rw [h.session_eq, h.stream_eq]
    simp

/-- The client without session and connection. -/
def ended (c : Client) : Client :=
  { c with transport := { c.transport with stream := none }, session := none }

/-- Everything that a client may do about one call, what it answers, and what becomes of it. -/
inductive Move (c : Client) : (call : Call) → List Event → call.Reply × Client → Prop
  | openAlready {msg} : c.isOpen = true →
    Move c (.connect msg) [] (.error (.invalidConfig "connection already open"), c)
  | opening {msg ctx es r} : c.endpoint.tls = true → c.context = some ctx → c.session = none →
    c.transport.stream = none → Course c ctx es r → Move c (.connect msg) es r
  | connecting {msg es o} : c.endpoint.tls = false → c.transport.stream = none →
    Transport.Reached c.transport es o →
    Move c (.connect msg) es ((c.transport.settled o).1.mapError .transport,
      { c with transport := (c.transport.settled o).2 })
  | unsent {bytes} : c.session = none → c.transport.stream = none →
    Move c (.send bytes) [] (.error (.transport .notConnected), c)
  | unreceived {buffer} : c.session = none → c.transport.stream = none →
    Move c (.recv buffer) [] ((.error (.transport .notConnected), buffer), c)
  | records {call s es r} : call.isTransfer = true → c.session = some s →
    (∀ ev ∈ es, ev.op.IsRecord s.socket) → Move c call es (r, c)
  | raw {call es r} : call.isTransfer = true → c.session = none →
    c.transport.stream.isSome = true → (∀ ev ∈ es, ev.op.isRaw = true) → Move c call es (r, c)
  | closeSession {s stream a b} : c.session = some s → c.transport.stream = some stream →
    Move c .close [⟨.tlsShutdown s.socket, a⟩, ⟨.shutdown stream, b⟩]
      ((Transport.parted b).mapError .transport, c.ended)
  | closeTransport {stream b} : c.session = none → c.transport.stream = some stream →
    Move c .close [⟨.shutdown stream, b⟩] ((Transport.parted b).mapError .transport, c.ended)
  | closeNothing : c.session = none → c.transport.stream = none → Move c .close [] (.ok (), c)

/-! ### The calls, by the state that they find -/

section

variable {c : Client}

theorem connect_of_isOpen (h : c.isOpen = true) (msg : String) :
    c.connect E msg = pure (.error (.invalidConfig "connection already open"), c) := by
  rw [connect, if_pos h]

theorem connect_of_plain (htls : c.endpoint.tls = false) (hopen : c.isOpen = false) (msg : String) :
    c.connect E msg = do
      let (r, transport) ← c.transport.connect E msg
      return (r.mapError .transport, { c with transport }) := by
  rw [connect, if_neg (by simp [hopen]), if_neg (by simp [htls])]

theorem send_of_session {s : Session} (h : c.session = some s) (bytes : List UInt8) :
    c.send E bytes = s.send E bytes := by
  rw [send, h]

theorem send_of_no_session (h : c.session = none) (bytes : List UInt8) :
    c.send E bytes = do return (← c.transport.send E bytes).mapError .transport := by
  rw [send, h]

/-- Without session and connection nothing is sent, and nothing is done. -/
theorem send_unconnected (h : c.session = none) (ht : c.transport.stream = none)
    (bytes : List UInt8) : c.send E bytes = pure (.error (.transport .notConnected)) := by
  rw [send_of_no_session h, Transport.send, ht]
  rfl

theorem recv_of_session {s : Session} (h : c.session = some s) (buffer : List UInt8) :
    c.recv E buffer = s.recv E buffer := by
  rw [recv, h]

theorem recv_of_no_session (h : c.session = none) (buffer : List UInt8) :
    c.recv E buffer = do
      let (r, buffer) ← c.transport.recv E buffer
      return (r.mapError .transport, buffer) := by
  rw [recv, h]

/-- Without session and connection nothing is received, and nothing is done. -/
theorem recv_unconnected (h : c.session = none) (ht : c.transport.stream = none)
    (buffer : List UInt8) :
    c.recv E buffer = pure (.error (.transport .notConnected), buffer) := by
  rw [recv_of_no_session h, Transport.recv, ht]
  rfl

/-- Without session and connection nothing is done to close. -/
theorem close_unconnected (h : c.session = none) (ht : c.transport.stream = none) :
    c.close E = do
      say (.debug ("Closing connection to " ++ c.transport.endpoint))
      return (.ok (), c) := by
  rw [close, Transport.close, h, ht]
  obtain ⟨endpoint, context, transport, session⟩ := c
  subst h
  rfl

theorem emits_answer_connect (hc : c.Coherent) (msg : String) :
    Emits E (c.answer E (.connect msg)) (Move c (.connect msg)) := by
  change Emits E (c.connect E msg) _
  cases hopen : c.isOpen with
  | true =>
    rw [connect_of_isOpen hopen]
    exact .pure (.openAlready hopen)
  | false =>
    cases htls : c.endpoint.tls with
    | true =>
      have hsession : c.session = none := by simpa [isOpen, htls] using hopen
      have hstream : c.transport.stream = none := hc.stream_eq_none htls hsession
      obtain ⟨ctx, hctx⟩ := Option.isSome_iff_exists.mp (hc.context htls)
      exact (emits_course htls hctx hsession hstream msg).mono fun es r h =>
        .opening htls hctx hsession hstream h
    | false =>
      have hstream : c.transport.stream = none := by
        simpa [isOpen, htls, Transport.isConnected] using hopen
      rw [connect_of_plain htls hopen]
      refine (Transport.emits_connect hstream msg).bind ?_
      rintro es _ ⟨o, ho, rfl⟩
      refine .pure ?_
      rw [List.append_nil]
      exact .connecting htls hstream ho

theorem emits_answer_send (c : Client) (bytes : List UInt8) :
    Emits E (c.answer E (.send bytes)) (Move c (.send bytes)) := by
  change Emits E (c.send E bytes >>= fun r => pure (r, c)) _
  cases hsession : c.session with
  | some s =>
    rw [send_of_session hsession]
    refine Emits.bind (s.emits_send bytes) fun es r hes => .pure ?_
    rw [List.append_nil]
    exact .records rfl hsession hes
  | none =>
    cases hstream : c.transport.stream with
    | none =>
      rw [send_unconnected hsession hstream]
      exact .pure (.unsent hsession hstream)
    | some stream =>
      rw [send_of_no_session hsession]
      refine Emits.bind ((Transport.emits_send hstream bytes).bind fun _ => .pure) fun es r hes =>
        .pure ?_
      rw [List.append_nil]
      exact .raw rfl hsession (by rw [hstream]; rfl) hes

theorem emits_answer_recv (c : Client) (buffer : List UInt8) :
    Emits E (c.answer E (.recv buffer)) (Move c (.recv buffer)) := by
  change Emits E (c.recv E buffer >>= fun r => pure (r, c)) _
  cases hsession : c.session with
  | some s =>
    have hrecords := s.emits_recv (E := E) (p := Op.IsRecord s.socket) buffer fun _ => rfl
    rw [recv_of_session hsession]
    refine Emits.bind hrecords fun es r hes => .pure ?_
    rw [List.append_nil]
    exact .records rfl hsession hes
  | none =>
    cases hstream : c.transport.stream with
    | none =>
      rw [recv_unconnected hsession hstream]
      exact .pure (.unreceived hsession hstream)
    | some stream =>
      have hraw := Transport.emits_recv (E := E) (p := fun op => op.isRaw = true) hstream buffer
        fun _ => rfl
      rw [recv_of_no_session hsession]
      refine Emits.bind (hraw.bind fun _ => .pure) fun es r hes => .pure ?_
      rw [List.append_nil]
      exact .raw rfl hsession (by rw [hstream]; rfl) hes

theorem emits_answer_close (hc : c.Coherent) :
    Emits E (c.answer E .close) (Move c .close) := by
  change Emits E (c.close E) _
  cases hstream : c.transport.stream with
  | none =>
    have hsession : c.session = none := by simpa [hstream] using hc.session
    rw [close_unconnected hsession hstream]
    exact .say_bind (.pure (.closeNothing hsession hstream))
  | some stream =>
    unfold close
    cases hsession : c.session with
    | none =>
      refine .say_bind ((Transport.emits_close hstream).bind ?_)
      rintro _ _ ⟨b, rfl, rfl⟩
      exact .pure (.closeTransport hsession hstream)
    | some s =>
      refine s.emits_close.bind ?_
      rintro _ _ ⟨a, rfl⟩
      refine .say_bind ((Transport.emits_close hstream).bind ?_)
      rintro _ _ ⟨b, rfl, rfl⟩
      exact .pure (.closeSession hsession hstream)

/-- **Everything that a client may do about one call.** -/
theorem emits_answer (hc : c.Coherent) (call : Call) : Emits E (c.answer E call) (Move c call) := by
  cases call with
  | connect msg => exact emits_answer_connect hc msg
  | send bytes => exact emits_answer_send c bytes
  | recv buffer => exact emits_answer_recv c buffer
  | close => exact emits_answer_close hc

end

/-! ### What one call keeps -/

section

variable {c : Client} {ctx : Context} {call : Call} {es : List Event}

theorem Opening.endpoint_eq {r : Except ConnectionError Unit × Client} (h : Opening c ctx es r) :
    r.2.endpoint = c.endpoint := by
  cases h <;> rfl

theorem Opening.context_eq {r : Except ConnectionError Unit × Client} (h : Opening c ctx es r) :
    r.2.context = c.context := by
  cases h <;> rfl

theorem Move.endpoint_eq {r : call.Reply × Client} (h : Move c call es r) :
    r.2.endpoint = c.endpoint := by
  cases h with
  | opening _ _ _ _ h => exact h.opening.endpoint_eq
  | _ => rfl

theorem Move.context_eq {r : call.Reply × Client} (h : Move c call es r) :
    r.2.context = c.context := by
  cases h with
  | opening _ _ _ _ h => exact h.opening.context_eq
  | _ => rfl

/-- A client that opens has both a session and a connection afterwards, or neither. -/
theorem Opening.isSome_iff {r : Except ConnectionError Unit × Client} (h : Opening c ctx es r)
    (hsession : c.session = none) (hstream : c.transport.stream = none) :
    r.2.session.isSome = r.1.toBool ∧ r.2.transport.stream.isSome = r.1.toBool := by
  cases h with
  | secured => exact ⟨rfl, rfl⟩
  | unmade => simp [hsession, hstream, Except.toBool]
  | _ => simp [carriedBy, hsession, Except.toBool]

theorem Move.coherent {r : call.Reply × Client} (h : Move c call es r) (hc : c.Coherent) :
    r.2.Coherent := by
  refine ⟨?_, ?_⟩
  · rw [h.endpoint_eq, h.context_eq]
    exact hc.context
  · rw [h.endpoint_eq]
    cases h with
    | opening htls _ hsession hstream h =>
      obtain ⟨h₁, h₂⟩ := h.opening.isSome_iff hsession hstream
      rw [h₁, h₂, htls, Bool.true_and]
    | connecting htls _ h =>
      have hsession : c.session = none := hc.session_eq_none htls
      rw [htls, Bool.false_and, hsession]
      rfl
    | closeSession | closeTransport => simp [ended]
    | _ => exact hc.session

end

end Client

/-! ## All calls -/

section

variable {κ : Type} [DecidableEq κ]

/-- What a call keeps, whichever client it is of, is kept by all calls. -/
theorem converse_induction {P : κ → Conversation → Prop}
    (hask : ∀ k t call w, P k t → P k ((t.ask E call w).1)) {talks : κ → Conversation}
    (h : ∀ k, P k (talks k)) (calls : List (κ × Call)) (w : World σ) :
    ∀ k, P k ((converse E talks calls w).1 k) := by
  induction calls generalizing talks w with
  | nil => exact h
  | cons kc calls ih =>
    obtain ⟨k, call⟩ := kc
    refine ih (fun k' => ?_) _
    by_cases hk : k' = k
    · subst hk
      rw [Function.update_self]
      exact hask k' _ call w (h k')
    · rw [Function.update_of_ne hk]
      exact h k'

/-- What holds of a coherent client in the beginning, and is kept by a call with all that is known
of it, holds after any calls of any clients. -/
theorem conversation_induction_of_emits {clients : κ → Client} {k : κ} (hk : (clients k).Coherent)
    {R : Client → (call : Call) → List Event → call.Reply × Client → Prop}
    (hR : ∀ c call, c.Coherent → Emits E (c.answer E call) (R c call)) {P : Conversation → Prop}
    (start : P (.start (clients k)))
    (step : ∀ t call es r, t.client.Coherent → P t → Client.Move t.client call es r →
      R t.client call es r → (∀ ev ∈ es, E.Gives ev) → P ⟨r.2, t.exchanges ++ [⟨call, r.1, es⟩]⟩)
    (calls : List (κ × Call)) (w : World σ) : P (conversation E clients calls w k) := by
  suffices h : ∀ k', k' = k → (conversation E clients calls w k').client.Coherent ∧
      P (conversation E clients calls w k') from (h k rfl).2
  refine converse_induction (P := fun k' t => k' = k → t.client.Coherent ∧ P t)
    (fun k' t call w ih hk' => ?_) (fun k' hk' => ?_) calls w
  · obtain ⟨hc, hP⟩ := ih hk'
    obtain ⟨hgives, hmove, hR⟩ := ((Client.emits_answer hc call).and (hR _ call hc)).since w
    exact ⟨hmove.coherent hc, step t call _ _ hc hP hmove hR hgives⟩
  · subst hk'
    exact ⟨hk, start⟩

/-- **What holds of a coherent client in the beginning, and is kept by all that it may do about a
call, holds after any calls of any clients.** -/
theorem conversation_induction {clients : κ → Client} {k : κ} (hk : (clients k).Coherent)
    {P : Conversation → Prop} (start : P (.start (clients k)))
    (step : ∀ t call es r, t.client.Coherent → P t → Client.Move t.client call es r →
      (∀ ev ∈ es, E.Gives ev) → P ⟨r.2, t.exchanges ++ [⟨call, r.1, es⟩]⟩)
    (calls : List (κ × Call)) (w : World σ) : P (conversation E clients calls w k) :=
  conversation_induction_of_emits hk (fun _ call hc => Client.emits_answer hc call) start
    (fun t call es r hc hP hmove _ => step t call es r hc hP hmove) calls w

/-- **The same of a client that was made of an endpoint and a context**, which it goes on with. -/
theorem conversation_induction_of_new {clients : κ → Client} {k : κ} {endpoint : Endpoint}
    {context : Option Context} (hnew : Client.new endpoint context = .ok (clients k))
    {P : Conversation → Prop} (start : P (.start (clients k)))
    (step : ∀ t call es r, t.client.endpoint = endpoint → t.client.context = context → P t →
      Client.Move t.client call es r → P ⟨r.2, t.exchanges ++ [⟨call, r.1, es⟩]⟩)
    (calls : List (κ × Call)) (w : World σ) : P (conversation E clients calls w k) := by
  have hnew' := Client.isNew_of_new hnew
  refine (conversation_induction (E := E) (P := fun t => t.client.endpoint = endpoint ∧
    t.client.context = context ∧ P t) hnew'.coherent ⟨hnew'.endpoint_eq, hnew'.context_eq, start⟩
    (fun t call es r _ ⟨hendpoint, hcontext, hP⟩ hmove _ => ?_) calls w).2.2
  exact ⟨hmove.endpoint_eq.trans hendpoint, hmove.context_eq.trans hcontext,
    step t call es r hendpoint hcontext hP hmove⟩

/-- What all that is known of a call says about the exchange and those before, is so of every
exchange, while `P` is kept. -/
theorem conversation_exchange_of_emits {clients : κ → Client} {k : κ} (hk : (clients k).Coherent)
    {R : Client → (call : Call) → List Event → call.Reply × Client → Prop}
    (hR : ∀ c call, c.Coherent → Emits E (c.answer E call) (R c call)) {P : Conversation → Prop}
    {Q : List Exchange → Exchange → Prop} (start : P (.start (clients k)))
    (step : ∀ t call es r, t.client.Coherent → P t → Client.Move t.client call es r →
      R t.client call es r → (∀ ev ∈ es, E.Gives ev) →
      P ⟨r.2, t.exchanges ++ [⟨call, r.1, es⟩]⟩ ∧ Q t.exchanges ⟨call, r.1, es⟩)
    (calls : List (κ × Call)) (w : World σ) {before after : List Exchange} {x : Exchange}
    (h : (conversation E clients calls w k).exchanges = before ++ x :: after) : Q before x := by
  suffices hall : P (conversation E clients calls w k) ∧ ∀ before x after,
      (conversation E clients calls w k).exchanges = before ++ x :: after → Q before x from
    hall.2 before x after h
  refine conversation_induction_of_emits (P := fun t => P t ∧ ∀ before x after,
      t.exchanges = before ++ x :: after → Q before x) hk hR ⟨start, fun before x after h => ?_⟩
    (fun t call es r hc ⟨hP, hQ⟩ hmove hR hgives => ?_) calls w
  · exact absurd h not_split_nil
  · obtain ⟨hP', hlast⟩ := step t call es r hc hP hmove hR hgives
    refine ⟨hP', fun before x after h => ?_⟩
    rcases split_concat h with ⟨rfl, rfl, -⟩ | ⟨after', -, h⟩
    · exact hlast
    · exact hQ before x after' h

/-- **What all that a client may do about a call says about the exchange and those before, is so of
every exchange**, while `P` is kept. -/
theorem conversation_exchange {clients : κ → Client} {k : κ} (hk : (clients k).Coherent)
    {P : Conversation → Prop} {Q : List Exchange → Exchange → Prop} (start : P (.start (clients k)))
    (step : ∀ t call es r, t.client.Coherent → P t → Client.Move t.client call es r →
      (∀ ev ∈ es, E.Gives ev) →
      P ⟨r.2, t.exchanges ++ [⟨call, r.1, es⟩]⟩ ∧ Q t.exchanges ⟨call, r.1, es⟩)
    (calls : List (κ × Call)) (w : World σ) {before after : List Exchange} {x : Exchange}
    (h : (conversation E clients calls w k).exchanges = before ++ x :: after) : Q before x :=
  conversation_exchange_of_emits hk (fun _ call hc => Client.emits_answer hc call) start
    (fun t call es r hc hP hmove _ => step t call es r hc hP hmove) calls w h

end

end SecureStream
