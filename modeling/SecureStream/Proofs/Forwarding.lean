import SecureStream.Peer.Loopback
import SecureStream.Proofs.Simulation
import SecureStream.Proofs.Turns

/-!
# Plain clients

A client without TLS hands every call on to its transport, and hands back what the transport
answers. Only one call is answered differently: a client that is open refuses to connect, where a
transport has nothing to do.

* `Transport.answer`, `Transport.turns`: a transport that is asked what clients are asked;
* `Call.forward`: the answer of a client, by the answer of its transport;
* `Abreast`: two worlds in which the same has happened and the same is going to happen;
* `Client.agree_answer`: one call;
* `TransportError.codeName`, `Forwarded`: what becomes of errors, and of all else;
* **`turns_forwarded`**: any calls, in any order.
-/

namespace SecureStream

variable {σ : Type} {E : Environment σ}

/-! ## Transports that are asked what clients are asked -/

/-- What a call to a transport is answered with. -/
abbrev Call.RawReply : Call → Type
  | connect _ => Except TransportError Unit
  | send _ => Except TransportError Unit
  | recv _ => Except TransportError Nat × List UInt8
  | close => Except TransportError Unit

/-- A call to a transport, the answer to it, what has happened in between, and the transport before
and afterwards. -/
structure RawTurn where
  before : Transport
  call : Call
  reply : call.RawReply
  events : List Event
  after : Transport

section

variable (E)

/-- Answer one call. -/
def Transport.answer (t : Transport) : (call : Call) → Act σ (call.RawReply × Transport)
  | .connect msg => t.connect E msg
  | .send bytes => do return (← t.send E bytes, t)
  | .recv buffer => do return (← t.recv E buffer, t)
  | .close => t.close E

/-- Answer one call, and keep what has passed. -/
def Transport.turn (t : Transport) (call : Call) : Act σ RawTurn := fun w =>
  let ((reply, after), w') := t.answer E call w
  (⟨t, call, reply, w'.since w, after⟩, w')

/-- Ask a transport one thing after the other. -/
def Transport.turns (t : Transport) : List Call → Act σ (List RawTurn)
  | [] => return []
  | call :: rest => do
    let turn ← t.turn E call
    return turn :: (← turn.after.turns rest)

end

/-- The answer of a client, by the answer of its transport. One that is open does not connect. -/
def Call.forward (connected : Bool) : (call : Call) → call.RawReply → call.Reply
  | .connect _, r =>
    if connected then .error (.invalidConfig "connection already open") else r.mapError .transport
  | .send _, r => r.mapError .transport
  | .recv _, (r, buffer) => (r.mapError .transport, buffer)
  | .close, r => r.mapError .transport

/-- The exchange with a client that a turn of its transport makes. -/
def RawTurn.exchange (y : RawTurn) : Exchange :=
  ⟨y.call, y.call.forward y.before.isConnected y.reply, y.events⟩

/-! ## Worlds that go on alike -/

/-- Since two worlds the same has happened, and the environment is in the same state. -/
structure Abreast (w₀ w₀' w w' : World σ) : Prop where
  state : w'.state = w.state
  past : ∃ es, w.past = es ++ w₀.past ∧ w'.past = es ++ w₀'.past

namespace Abreast

variable {w₀ w₀' w w' : World σ}

theorem start (h : w₀'.state = w₀.state) : Abreast w₀ w₀' w₀ w₀' := ⟨h, [], rfl, rfl⟩

theorem record (h : Abreast w₀ w₀' w w') (lines lines' : List LogLine) :
    Abreast w₀ w₀' (w.record lines) (w'.record lines') := ⟨h.state, h.past⟩

theorem since_eq (h : Abreast w₀ w₀' w w') : w'.since w₀' = w.since w₀ := by
  obtain ⟨es, hpast, hpast'⟩ := h.past
  rw [← List.reverse_reverse es] at hpast hpast'
  rw [World.since_eq hpast, World.since_eq hpast']

theorem perform (h : Abreast w₀ w₀' w w') (op : Op) :
    (SecureStream.perform E op w').1 = (SecureStream.perform E op w).1 ∧
      Abreast w₀ w₀' (SecureStream.perform E op w).2 (SecureStream.perform E op w').2 := by
  have hanswer : E.answer op w'.state = E.answer op w.state := by rw [h.state]
  obtain ⟨es, hpast, hpast'⟩ := h.past
  unfold SecureStream.perform
  rw [hanswer]
  exact ⟨rfl, rfl, ⟨op, (E.answer op w.state).1⟩ :: es, congrArg _ hpast, congrArg _ hpast'⟩

theorem mirrors (E : Environment σ) (w₀ w₀' : World σ) : Mirrors E E (Abreast w₀ w₀') where
  record lines _ _ h := h.record lines lines
  persist op _ _ _ h := run_eq_of_reaches (bounded_perform E op) (bounded_perform E op)
    (fun _ _ h => .now (h.perform op)) h

/-- What is only logged on the one side makes no difference. -/
theorem agree_say {α : Type} {w₀ w₀' : World σ} {f f' : Act σ α} (h : Agree (Abreast w₀ w₀') f f')
    (line : LogLine) : Agree (Abreast w₀ w₀') (SecureStream.say line >>= fun _ => f) f' := by
  intro w w' hw
  exact h (w.record [line]) w' (hw.record [line] [])

end Abreast

/-! ## One call -/

namespace Client

variable {c : Client}

/-- The client with another transport. -/
def onTransport (c : Client) (t : Transport) : Client := { c with transport := t }

/-- **A plain client answers as its transport does.** -/
theorem agree_answer (htls : c.endpoint.tls = false) (hsession : c.session = none) (call : Call)
    (w₀ w₀' : World σ) : Agree (Abreast w₀ w₀') (c.answer E call) (do
      let (reply, t) ← c.transport.answer E call
      return (call.forward c.transport.isConnected reply, c.onTransport t)) := by
  have h := (Abreast.mirrors E w₀ w₀').compares
  have hopen : c.isOpen = c.transport.isConnected := by
    rw [isOpen, htls]
    rfl
  cases call with
  | connect msg =>
    change Agree _ (c.connect E msg) (c.transport.connect E msg >>= fun x =>
      pure (Call.forward c.transport.isConnected (.connect msg) x.1, c.onTransport x.2))
    cases hconnected : c.transport.isConnected with
    | true =>
      have hstream : c.transport.stream.isSome = true := hconnected
      rw [connect_of_isOpen (hopen.trans hconnected), Transport.connect, if_pos hstream]
      exact .pure _
    | false =>
      rw [connect_of_plain htls (hopen.trans hconnected)]
      exact (h.connectRaw c.transport msg).bind fun _ => .pure _
  | send bytes =>
    change Agree _ (c.send E bytes >>= fun r => pure (r, c)) _
    rw [send_of_no_session hsession]
    exact ((h.sendRaw c.transport bytes).bind fun _ => .pure _).bind fun _ => .pure _
  | recv buffer =>
    change Agree _ (c.recv E buffer >>= fun r => pure (r, c)) _
    rw [recv_of_no_session hsession]
    exact ((h.recvRaw c.transport buffer).bind fun _ => .pure _).bind fun _ => .pure _
  | close =>
    obtain ⟨endpoint, context, transport, session⟩ := c
    obtain rfl : session = none := hsession
    exact Abreast.agree_say ((h.closeRaw transport).bind fun _ => .pure _) _

theorem isOpen_onTransport (htls : c.endpoint.tls = false) (t : Transport) :
    (c.onTransport t).isOpen = t.isConnected := by
  have htls' : (c.onTransport t).endpoint.tls = false := htls
  rw [isOpen, htls']
  rfl

theorem turn_forwarded (htls : c.endpoint.tls = false) (hsession : c.session = none) (call : Call)
    {w w' : World σ} (hstate : w'.state = w.state) :
    (c.turn E call w).1.exchange = (c.transport.turn E call w').1.exchange ∧
      (c.turn E call w).1.client = c.onTransport (c.transport.turn E call w').1.after ∧
      (c.transport.turn E call w').2.state = (c.turn E call w).2.state := by
  obtain ⟨hresult, habreast⟩ :=
    agree_answer (E := E) htls hsession call w w' w w' (.start hstate)
  have hreply : (c.answer E call w).1.1 =
      call.forward c.transport.isConnected (c.transport.answer E call w').1.1 :=
    congrArg Prod.fst hresult
  have hsince : (c.transport.answer E call w').2.since w' = (c.answer E call w).2.since w :=
    habreast.since_eq
  have hexchange : (c.turn E call w).1.exchange =
      ⟨call, (c.answer E call w).1.1, (c.answer E call w).2.since w⟩ := rfl
  refine ⟨?_, congrArg Prod.snd hresult, habreast.state⟩
  rw [hexchange, hreply, ← hsince]
  rfl

end Client

/-! ## All calls -/

namespace Transport

/-- Every turn is one of the transport that is there before it. -/
theorem exists_turn {t : Transport} {calls : List Call} {w : World σ} {y : RawTurn}
    (h : y ∈ (t.turns E calls w).1) : ∃ w₁, y = (y.before.turn E y.call w₁).1 := by
  induction calls generalizing t w with
  | nil => cases h
  | cons call calls ih =>
    rcases List.mem_cons.mp h with rfl | h
    · exact ⟨w, rfl⟩
    · exact ih h

/-- A transport that is connected has nothing to do to connect. -/
theorem turn_connect {t : Transport} (ht : t.isConnected = true) (msg : String) (w : World σ) :
    t.turn E (.connect msg) w = (⟨t, .connect msg, .ok (), [], t⟩, w) := by
  have hstream : t.stream.isSome = true := ht
  have hanswer : t.answer E (.connect msg) w = ((.ok (), t), w) := by
    change t.connect E msg w = _
    rw [connect, if_pos hstream]
    rfl
  have hsince : w.since w = [] := w.since_self
  rw [turn, hanswer]
  dsimp only
  rw [hsince]

end Transport

/-- The name of the code that goes with an error of a transport. -/
def TransportError.codeName : TransportError → String
  | invalidRemoteAddr _ _ _ => "IP_INVALID_REMOTE_ADDR"
  | connectFailed _ _ _ => "IP_CONNECT_FAILED"
  | socket _ => "IP_SOCKET_ERROR"
  | send _ => "IP_SEND_ERROR"
  | recv _ => "IP_RECV_ERROR"
  | close _ => "IP_CLOSE_ERROR"
  | notConnected => "IP_OBJECT_NOT_INITIALIZED"

/-- What a plain client does about some calls is what its transport does about them: the replies and
events are those of the transport, and so is whether there is a connection. The context makes no
difference, and stays. A client that is open refuses to connect, where the transport does nothing;
an error of the transport has the code that goes with it. -/
structure Forwarded (c : Client) (xs : List Turn) (ys : List RawTurn) : Prop where
  exchanges : xs.map Turn.exchange = ys.map RawTurn.exchange
  clients : xs.map Turn.client = ys.map fun y => c.onTransport y.after
  isOpen : (xs.map fun x => x.client.isOpen) = ys.map fun y => y.after.isConnected
  already : ∀ before msg reply events after, ⟨before, .connect msg, reply, events, after⟩ ∈ ys →
    before.isConnected = true → reply = .ok () ∧ events = [] ∧ after = before
  codes : ∀ e : TransportError, (ConnectionError.transport e).code.text = e.codeName

/-- A plain client and its transport are asked the same. -/
theorem Client.turns_onTransport {c : Client} (htls : c.endpoint.tls = false)
    (hsession : c.session = none) (calls : List Call) (t : Transport) {w w' : World σ}
    (hstate : w'.state = w.state) :
    ((c.onTransport t).turns E calls w).1.map Turn.exchange =
        (t.turns E calls w').1.map RawTurn.exchange ∧
      ((c.onTransport t).turns E calls w).1.map Turn.client =
        (t.turns E calls w').1.map (fun y => c.onTransport y.after) ∧
      (t.turns E calls w').2.state = ((c.onTransport t).turns E calls w).2.state := by
  induction calls generalizing t w w' with
  | nil => exact ⟨rfl, rfl, hstate⟩
  | cons call calls ih =>
    obtain ⟨hexchange, hclient, hstate⟩ :=
      turn_forwarded (c := c.onTransport t) (E := E) htls hsession call hstate
    obtain ⟨hexchanges, hclients, hstate⟩ := ih (t.turn E call w').1.after hstate
    -- The client is over the same transport again.
    have hafter : ((c.onTransport t).turn E call w).1.client =
        c.onTransport (t.turn E call w').1.after := hclient
    have hturns : (c.onTransport t).turns E (call :: calls) w =
        let turn := (c.onTransport t).turn E call w
        let rest := (c.onTransport (t.turn E call w').1.after).turns E calls turn.2
        (turn.1 :: rest.1, rest.2) := by
      rw [← hafter]
      rfl
    rw [hturns]
    exact ⟨congrArg₂ List.cons hexchange hexchanges, congrArg₂ List.cons hclient hclients, hstate⟩

/-- **A plain client is its transport**: whatever it is asked, on whatever network, it answers and
does what a transport with its host, port and time limit would. -/
theorem turns_forwarded (E : Environment σ) {endpoint : Endpoint} (context : Option Context)
    (htls : endpoint.tls = false) :
    ∃ c, Client.new endpoint context = .ok c ∧ c.transport =
        { Transport.new endpoint.connectHost endpoint.connectPort with limit := endpoint.limit } ∧
      ∀ (calls : List Call) (w w' : World σ), w'.state = w.state →
        Forwarded c (c.turns E calls w).1 (c.transport.turns E calls w').1 ∧
          (c.transport.turns E calls w').2.state = (c.turns E calls w).2.state := by
  have hnew : Client.new endpoint context = .ok ⟨endpoint, context, endpoint.transport, none⟩ :=
    Client.new_eq_ok_iff.mpr ⟨fun h => absurd (htls.symm.trans h) Bool.false_ne_true, rfl⟩
  refine ⟨_, hnew, rfl, fun calls w w' hstate => ?_⟩
  generalize hc : (⟨endpoint, context, endpoint.transport, none⟩ : Client) = c
  have htls : c.endpoint.tls = false := by rw [← hc]; exact htls
  have hsession : c.session = none := by rw [← hc]
  obtain ⟨hexchanges, hclients, hstate⟩ :=
    Client.turns_onTransport (E := E) htls hsession calls c.transport hstate
  refine ⟨⟨hexchanges, hclients, ?_, ?_, ?_⟩, hstate⟩
  · have hopen := congrArg (List.map Client.isOpen) hclients
    simp only [List.map_map, Function.comp_def, Client.isOpen_onTransport htls] at hopen
    exact hopen
  · intro before msg reply events after hy hconnected
    obtain ⟨w₁, hturn⟩ := Transport.exists_turn hy
    rw [Transport.turn_connect hconnected] at hturn
    cases hturn
    exact ⟨rfl, rfl, rfl⟩
  · intro e
    cases e <;> rfl

namespace Peer.Loopback

/-- A plain client is opened twice, and sends when it is open and when it is not. -/
def plainCalls : List Call :=
  [.send [1], .connect "first", .connect "second", .send [2], .close, .send [3]]

/-- What comes of them. -/
def plainTurns : List Turn :=
  (plainClient.turns Network.environment plainCalls (.start (plainNetwork []))).1

end Peer.Loopback

theorem turns_forwarded_loopback : (Endpoint.new "localhost").tls = false ∧
    Client.new (Endpoint.new "localhost") none = .ok Peer.Loopback.plainClient ∧
    Forwarded Peer.Loopback.plainClient Peer.Loopback.plainTurns
      (Peer.Loopback.plainClient.transport.turns Peer.Network.environment Peer.Loopback.plainCalls
        (.start (Peer.Loopback.plainNetwork []))).1 ∧
    Peer.Loopback.plainTurns.map (fun turn => turn.client.isOpen) =
      [false, true, true, true, false, false] := by
  obtain ⟨c, hnew, -, hforwarded⟩ :=
    turns_forwarded Peer.Network.environment (none : Option Context)
      (rfl : (Endpoint.new "localhost").tls = false)
  have hplain : Client.new (Endpoint.new "localhost") none = .ok Peer.Loopback.plainClient := rfl
  obtain rfl : Peer.Loopback.plainClient = c := Except.ok.inj (hplain.symm.trans hnew)
  exact ⟨rfl, hnew, (hforwarded _ _ _ rfl).1, by decide +kernel⟩

end SecureStream
