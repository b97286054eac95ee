import SecureStream.Peer.Loopback
import SecureStream.Proofs.Halting
import SecureStream.Proofs.Lifecycle
import SecureStream.Proofs.Turns

/-!
# Clients that are as new

To close a client, and to fail to open it, leaves it as it was made.

* `Client.ended_eq_self`, `Client.Coherent.ended_eq`: clients that have nothing to lose;
* `Client.Move.ended_eq`, `conversation_ended`: whatever is asked of a client, it only ever gains a
  session and a connection;
* `Client.Move.close_eq`, `Client.Move.failed_eq`: it loses them again;
* `Client.AsNew`, `Client.Restored`: what that means for whoever uses the client, and what decides
  the results;
* **`conversation_restored`**: so it is after any calls.
-/

namespace SecureStream

variable {σ : Type} {E : Environment σ}

namespace Client

/-! ## What is left without session and connection -/

section

variable {c : Client} {ctx : Context} {call : Call} {es : List Event}

theorem ended_eq_self (hsession : c.session = none) (hstream : c.transport.stream = none) :
    c.ended = c := by
  obtain ⟨endpoint, context, ⟨host, port, limit, stream⟩, session⟩ := c
  obtain rfl : session = none := hsession
  obtain rfl : stream = none := hstream
  rfl

theorem Coherent.ended_eq (hc : c.Coherent) (hopen : c.isOpen = false) : c.ended = c := by
  have hstream : c.transport.stream.isSome = false := hc.isOpen_eq.symm.trans hopen
  have hsession : c.session.isSome = false := by rw [hc.session, hstream, Bool.and_false]
  exact ended_eq_self (Option.isNone_iff_eq_none.mp (Option.isSome_eq_false_iff.mp hsession))
    (Option.isNone_iff_eq_none.mp (Option.isSome_eq_false_iff.mp hstream))

theorem Opening.ended_eq {r : Except ConnectionError Unit × Client} (h : Opening c ctx es r)
    (hport : c.transport.port = c.endpoint.connectPort) : r.2.ended = c.ended := by
  cases h with
  | unmade => rfl
  | _ => simp [ended, carriedBy, ← hport]

/-- A call changes nothing but the session and the connection. -/
theorem Move.ended_eq {r : call.Reply × Client} (h : Move c call es r)
    (hport : c.transport.port = c.endpoint.connectPort) : r.2.ended = c.ended := by
  cases h with
  | opening _ _ _ _ h => exact h.opening.ended_eq hport
  | @connecting _ _ o => cases o <;> rfl
  | _ => rfl

/-! ## Losing them -/

theorem Move.close_eq {r : Call.close.Reply × Client} (h : Move c .close es r) : r.2 = c.ended := by
  cases h with
  | closeSession | closeTransport => rfl
  | closeNothing hsession hstream => exact (ended_eq_self hsession hstream).symm
  | records htransfer | raw htransfer => exact nomatch htransfer

theorem Move.failed_eq {msg : String} {e : ConnectionError} {c' : Client}
    (h : Move c (.connect msg) es (.error e, c')) (hc : c.Coherent) (hopen : c.isOpen = false)
    (hport : c.transport.port = c.endpoint.connectPort) : c' = c.ended := by
  have hc' : c'.Coherent := h.coherent hc
  have hopen' : c'.isOpen = false := by
    rw [hc'.isOpen_eq, Bool.eq_false_iff]
    intro hsome
    rcases h.isSome_stream_iff.mp hsome with hopens | ⟨-, hsome⟩
    · exact nomatch hopens
    · exact nomatch (hc.isOpen_eq.trans hsome).symm.trans hopen
  rw [← hc'.ended_eq hopen']
  exact h.ended_eq hport

/-! ## What closing answers -/

theorem Move.close_of_none {r : Call.close.Reply × Client} (h : Move c .close es r)
    (hstream : c.transport.stream = none) : r.1 = .ok () ∧ es = [] := by
  cases h with
  | closeSession _ hsome | closeTransport _ hsome => exact nomatch hstream.symm.trans hsome
  | closeNothing => exact ⟨rfl, rfl⟩
  | records htransfer | raw htransfer => exact nomatch htransfer

theorem Move.close_of_some {r : Call.close.Reply × Client} {s : Socket} (h : Move c .close es r)
    (hstream : c.transport.stream = some s) :
    ∃ a, r.1 = (Transport.parted a).mapError .transport ∧
      ((c.session = none ∧ es = [⟨.shutdown s, a⟩]) ∨ ∃ session b, c.session = some session ∧
        es = [⟨.tlsShutdown session.socket, b⟩, ⟨.shutdown s, a⟩]) := by
  cases h with
  | closeSession hsession hsome =>
    cases hstream.symm.trans hsome
    exact ⟨_, rfl, .inr ⟨_, _, hsession, rfl⟩⟩
  | closeTransport hsession hsome =>
    cases hstream.symm.trans hsome
    exact ⟨_, rfl, .inl ⟨hsession, rfl⟩⟩
  | closeNothing _ hnone => exact nomatch hstream.symm.trans hnone
  | records htransfer | raw htransfer => exact nomatch htransfer

/-! ## Giving up -/

/-- The last event is the reason to give a connection up, and the error says so. -/
inductive GivesUp (name : String) : List Event → Except ConnectionError Unit → Prop
  | undoubled {es s e} :
    GivesUp name (es ++ [⟨.duplicate s, .error e⟩]) (.error (.transport (.socket e)))
  | refused {es s request v calls e} :
    GivesUp name (es ++ [⟨.handshake s request v, ⟨calls, .error e⟩⟩])
      (.error (.handshake name e.message (v.observe calls).2.status))

/-- To give up is the last thing that is done, and its own success is of no account. -/
theorem Opening.givesUp {r : Except ConnectionError Unit × Client} {s : Socket}
    {a : Except SystemError Unit} (h : Opening c ctx (es ++ [⟨.shutdown s, a⟩]) r) :
    GivesUp c.endpoint.remoteName es r.1 := by
  generalize hes : es ++ [⟨.shutdown s, a⟩] = all at h
  have hmem : ⟨.shutdown s, a⟩ ∈ all := by simp [← hes]
  cases h with
  | unmade hsetUp => exact (hsetUp _ hmem).elim
  | unreached hsetUp h =>
    rcases List.mem_append.mp hmem with hmem | hmem
    · exact (hsetUp _ hmem).elim
    · exact (h.isConnecting _ hmem).elim
  | @undoubled es₁ es₂ s' e b hsetUp h =>
    have hlast : es ++ [⟨.shutdown s, a⟩] =
        (es₁ ++ es₂ ++ [⟨.duplicate s', .error e⟩]) ++ [⟨.shutdown s', b⟩] := by
      rw [hes, List.append_assoc (es₁ ++ es₂)]
      rfl
    obtain ⟨rfl, -⟩ := List.append_singleton_inj.mp hlast
    exact .undoubled
  | refused hsetUp h ha =>
    obtain ⟨before, v₁, calls, rfl, -, -, rfl, -⟩ := ha.exists_last
    rw [← List.cons_append, ← List.append_assoc, ← List.cons_append, ← List.append_assoc] at hes
    obtain ⟨rfl, -⟩ := List.append_singleton_inj.mp hes
    exact .refused
  | secured hsetUp h ha =>
    obtain ⟨before, v₁, calls, rfl, -, -, rfl, -⟩ := ha.exists_last
    rw [← List.cons_append, ← List.append_assoc] at hes
    obtain ⟨-, heq⟩ := List.append_singleton_inj.mp hes
    cases heq

theorem Move.givesUp {msg : String} {r : (Call.connect msg).Reply × Client} {s : Socket}
    {a : Except SystemError Unit} (h : Move c (.connect msg) (es ++ [⟨.shutdown s, a⟩]) r) :
    GivesUp c.endpoint.remoteName es r.1 := by
  generalize hes : es ++ [⟨.shutdown s, a⟩] = all at h
  have hmem : ⟨.shutdown s, a⟩ ∈ all := by simp [← hes]
  cases h with
  | openAlready => cases hmem
  | opening _ _ _ _ h =>
    rw [← hes] at h
    exact h.opening.givesUp
  | connecting _ _ h => exact (h.isConnecting _ hmem).elim
  | records htransfer | raw htransfer => exact nomatch htransfer

end

/-! ## What a caller may rely on -/

/-- The client is the one that was made: it goes on like that one, and has nothing to close. -/
structure AsNew (E : Environment σ) (made c : Client) : Prop where
  eq : c = made
  turns : ∀ calls w, c.turns E calls w = made.turns E calls w
  close : ∀ w, (c.close E w).1 = (.ok (), made) ∧ (c.close E w).2.since w = []

/-- A client may be closed, and an attempt to open it may fail, without a trace. -/
structure Restored (E : Environment σ) (made c : Client) : Prop where
  closed : ∀ w, AsNew E made (c.close E w).1.2
  failed : c.isOpen = false → ∀ msg w e, (c.connect E msg w).1.1 = .error e →
    AsNew E made (c.connect E msg w).1.2
  /-- A client that is open is not opened, and stays as it is. -/
  already : c.isOpen = true → ∀ msg w,
    c.connect E msg w = ((.error (.invalidConfig "connection already open"), c), w)
  /-- Without a connection there is nothing to close. -/
  unconnected : c.transport.stream = none → ∀ w,
    (c.close E w).1.1 = .ok () ∧ (c.close E w).2.since w = []
  /-- To close is to shut the connection down, and the answer to that decides alone. A session is
  ended before, whatever comes of it. -/
  shutdown : ∀ s, c.transport.stream = some s → ∀ w, ∃ a,
    (c.close E w).1.1 = (Transport.parted a).mapError .transport ∧
    ((c.session = none ∧ (c.close E w).2.since w = [⟨.shutdown s, a⟩]) ∨
      ∃ session b, c.session = some session ∧
        (c.close E w).2.since w = [⟨.tlsShutdown session.socket, b⟩, ⟨.shutdown s, a⟩])
  /-- An attempt to open that is given up fails with what has gone wrong before that. -/
  givesUp : ∀ msg w es s a, (c.connect E msg w).2.since w = es ++ [⟨.shutdown s, a⟩] →
    GivesUp c.endpoint.remoteName es (c.connect E msg w).1.1

section

variable {c made : Client}

theorem asNew_self (hsession : made.session = none) (hstream : made.transport.stream = none) :
    AsNew E made made where
  eq := rfl
  turns _ _ := rfl
  close w := by
    have hclose := close_unconnected (E := E) hsession hstream
    rw [hclose]
    exact ⟨rfl, World.since_eq rfl⟩

theorem restored_of_ended (hc : c.Coherent) (hport : c.transport.port = c.endpoint.connectPort) :
    Restored E c.ended c := by
  have hnew : AsNew E c.ended c.ended := asNew_self rfl rfl
  have hmove (call : Call) (w : World σ) := ((emits_answer (E := E) hc call).since w).2
  refine ⟨fun w => ?_, fun hopen msg w e he => ?_, fun hopen msg w => ?_, fun hstream w => ?_,
    fun s hstream w => ?_, fun msg w es s a hes => ?_⟩
  · have hclose : (c.close E w).1.2 = c.ended := (hmove .close w).close_eq
    rw [hclose]
    exact hnew
  · have hconnect : Move c (.connect msg) ((c.connect E msg w).2.since w)
        (.error e, (c.connect E msg w).1.2) := by
      rw [← he]
      exact hmove (.connect msg) w
    rw [hconnect.failed_eq hc hopen hport]
    exact hnew
  · rw [connect_of_isOpen hopen]
    rfl
  · exact (hmove .close w).close_of_none hstream
  · exact (hmove .close w).close_of_some hstream
  · have hconnect : Move c (.connect msg) (es ++ [⟨.shutdown s, a⟩]) (c.connect E msg w).1 := by
      rw [← hes]
      exact hmove (.connect msg) w
    exact hconnect.givesUp

end

end Client

/-! ## All calls -/

section

variable {κ : Type} [DecidableEq κ] {clients : κ → Client} {k : κ}

/-- Without its session and its connection a client is as it was made. -/
theorem conversation_ended {endpoint : Endpoint} {context : Option Context}
    (hnew : Client.new endpoint context = .ok (clients k)) (calls : List (κ × Call))
    (w : World σ) : (conversation E clients calls w k).client.ended = clients k := by
  have hmade := (Client.new_eq_ok_iff.mp hnew).2
  refine conversation_induction (E := E) (P := fun t => t.client.ended = clients k)
    (Client.isNew_of_new hnew).coherent ?_ (fun t call es r _ ih hmove _ => ?_) calls w
  · rw [hmade]
    rfl
  · have hport : t.client.transport.port = t.client.endpoint.connectPort := by
      have hport' : t.client.ended.transport.port = t.client.ended.endpoint.connectPort := by
        rw [ih, hmade]
        rfl
      exact hport'
    exact (hmove.ended_eq hport).trans ih

/-- **Whatever has been asked of a client, to close it leaves it as it was made, and so does every
attempt to open it that fails.** -/
theorem conversation_restored {endpoint : Endpoint} {context : Option Context}
    (hnew : Client.new endpoint context = .ok (clients k)) (calls : List (κ × Call))
    (w : World σ) : Client.Restored E (clients k) (conversation E clients calls w k).client := by
  have hended := conversation_ended (E := E) hnew calls w
  have hcoherent := conversation_coherent (E := E) (Client.isNew_of_new hnew).coherent calls w
  have hport : (conversation E clients calls w k).client.ended.transport.port =
      (conversation E clients calls w k).client.ended.endpoint.connectPort := by
    rw [hended, (Client.new_eq_ok_iff.mp hnew).2]
    rfl
  rw [← hended]
  exact Client.restored_of_ended hcoherent hport

end

namespace Peer.Loopback

/-- What comes of opening a client of a peer whose certificate is no longer valid. -/
def refusedOpening : (Except ConnectionError Unit × Client) × World Network :=
  (clients .strict true).connect Network.environment "first" (.start (expired []))

end Peer.Loopback

theorem conversation_restored_loopback :
    (Client.new Peer.Loopback.endpoint (some (Peer.Loopback.context .strict)) =
      .ok (Peer.Loopback.clients .strict true)) ∧
    Client.Restored Peer.Network.environment (Peer.Loopback.clients .strict true)
      (conversation Peer.Network.environment (Peer.Loopback.clients .strict)
        [(true, .connect "first"), (true, .send [1])]
        (.start (Peer.Loopback.network [])) true).client ∧
    Peer.Loopback.refusedOpening.1.1.mapError ConnectionError.code = .error .httpsFailedConnect ∧
    Client.AsNew Peer.Network.environment (Peer.Loopback.clients .strict true)
      Peer.Loopback.refusedOpening.1.2 := by
  have hnew := Peer.Loopback.new_eq .strict true
  have hfails : Peer.Loopback.refusedOpening.1.1.mapError ConnectionError.code =
      .error .httpsFailedConnect := by decide +kernel
  refine ⟨hnew, conversation_restored hnew _ _, hfails, ?_⟩
  cases hresult : Peer.Loopback.refusedOpening.1.1 with
  | ok _ =>
    rw [hresult] at hfails
    exact nomatch hfails
  | error e =>
    exact (conversation_restored (E := Peer.Network.environment) hnew []
      (.start (Peer.Loopback.expired []))).failed rfl "first" _ e hresult

end SecureStream
