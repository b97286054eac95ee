import SecureStream.Peer.Loopback
import SecureStream.Proofs.Conversation
import SecureStream.Proofs.Phase

/-!
# The life of a client

Whatever is asked of a client, and whatever comes of it, its state says whether it is open, and a
client over TLS goes through the phases of a connection in order.

* `Opened`: some call to connect has succeeded, and there was no call to close since;
* `lastSocket?`, `Client.Move.lastSocket?_concat`: the socket over which bytes move since then;
* `Client.phase`, `Client.Move.path`: one call leads from phase to phase;
* `conversation_path`, **`conversation_not_isRaw`**: so do all calls, and none of them moves raw
  bytes for a client over TLS;
* `Lifecycle`, **`conversation_lifecycle`**: what state and events have to do with the calls.
-/

namespace SecureStream

variable {σ : Type} {E : Environment σ}

/-! ## Calls that open -/

/-- The call was to connect, and has succeeded. -/
def Exchange.opens : Exchange → Bool
  | ⟨.connect _, .ok (), _⟩ => true
  | _ => false

/-- Some call to connect has succeeded, and there was no call to close since. -/
def Opened (exchanges : List Exchange) : Prop :=
  ∃ before x after, exchanges = before ++ x :: after ∧ x.opens = true ∧
    ∀ y ∈ after, y.call ≠ .close

namespace Opened

theorem not_nil : ¬ Opened [] := by
  rintro ⟨before, x, after, h, -, -⟩
  exact absurd h not_split_nil

/-- Whether a client has been opened after one exchange more. -/
theorem concat_iff {exchanges : List Exchange} {x : Exchange} :
    Opened (exchanges ++ [x]) ↔ x.opens = true ∨ x.call ≠ .close ∧ Opened exchanges := by
  constructor
  · rintro ⟨before, y, after, h, hy, hafter⟩
    rcases split_concat h with ⟨-, rfl, -⟩ | ⟨after, rfl, rfl⟩
    · exact .inl hy
    · obtain ⟨hafter, hx⟩ := List.forall_mem_append.mp hafter
      exact .inr ⟨hx x (List.mem_singleton.mpr rfl), before, y, after, rfl, hy, hafter⟩
  · rintro (hx | ⟨hx, before, y, after, rfl, hy, hafter⟩)
    · exact ⟨exchanges, x, [], rfl, hx, fun _ hmem => absurd hmem List.not_mem_nil⟩
    · refine ⟨before, y, after ++ [x], by rw [List.append_assoc, List.cons_append], hy, ?_⟩
      exact List.forall_mem_append.mpr ⟨hafter, List.forall_mem_singleton.mpr hx⟩

end Opened

/-- The socket of an operation that may be the last one of opening. -/
def Op.opener? : Op → Option Socket
  | writeLimit s _ | handshake s _ _ => some s
  | _ => none

/-- The socket that the last of some events was over, if it may be the last one of opening. -/
def lastOpener? (es : List Event) : Option Socket := es.getLast?.bind (·.op.opener?)

/-- The socket of a call that has opened: over TLS that of the handshake, and otherwise that of the
connection, for which the last time limit was set. -/
def Exchange.socket? (x : Exchange) : Option Socket :=
  if x.opens then lastOpener? x.events else none

/-- The socket of the last call that has opened. -/
def lastSocket? (exchanges : List Exchange) : Option Socket :=
  (exchanges.filterMap Exchange.socket?).getLast?

theorem lastOpener?_append (es : List Event) {es' : List Event} {s : Socket}
    (h : lastOpener? es' = some s) :
    lastOpener? (es ++ es') = some s := by
  obtain ⟨ev, hlast, hop⟩ := Option.bind_eq_some_iff.mp h
  rw [lastOpener?, List.getLast?_append, hlast]
  exact hop

theorem lastSocket?_concat (exchanges : List Exchange) (x : Exchange) :
    lastSocket? (exchanges ++ [x]) = x.socket?.or (lastSocket? exchanges) := by
  rw [lastSocket?, List.filterMap_append, List.getLast?_append]
  cases hx : x.socket? with
  | none => rw [List.filterMap_cons_none hx]; rfl
  | some s => rw [List.filterMap_cons_some hx]; rfl

/-! ## The phases that a call leads through -/

/-- The phase after looking for the peer. -/
def Phase.afterSearch {ε : Type} : Except ε Socket → Phase
  | .ok s => connected s
  | .error _ => idle

/-- The phase after all attempts at the handshake. -/
def Phase.afterHandshake (s second : Socket) : Except Tls.Failure Tls.Negotiated → Phase
  | .ok _ => secured s second
  | .error _ => failed s

theorem Phase.afterAttempt_of_interrupted {s second : Socket}
    {o : Except Tls.Failure Tls.Negotiated} (h : Pending.isInterrupted o = true) :
    afterAttempt s second o = shaking s second := by
  cases o with
  | ok n => exact nomatch h
  | error e => exact if_pos h

theorem Phase.afterAttempt_of_decided {s second : Socket}
    {o : Except Tls.Failure Tls.Negotiated} (h : Pending.isInterrupted o = false) :
    afterAttempt s second o = afterHandshake s second o := by
  cases o with
  | ok n => rfl
  | error e => exact if_neg (by simpa [Pending.isInterrupted] using h)

namespace Transport

variable {t : Transport} {address : SocketAddress} {addresses : List SocketAddress}
  {e : SystemError} {es : List Event}

theorem Attempted.path {r : Except SystemError Socket} (h : Attempted t address es r) :
    Phase.Path .idle es (.afterSearch r) := by
  cases h with
  | noSocket => exact .single .socket
  | noDelay => exact .cons .socket (.single .noDelay)
  | noKeepAlive => exact .cons .socket (.cons .noDelay (.single .keepAlive))
  | refused => exact .cons .socket (.cons .noDelay (.cons .keepAlive (.single .refused)))
  | noReadLimit =>
    exact .cons .socket (.cons .noDelay (.cons .keepAlive (.cons .connect (.single .noReadLimit))))
  | noWriteLimit =>
    exact .cons .socket (.cons .noDelay (.cons .keepAlive (.cons .connect (.cons .readLimit
      (.single .noWriteLimit)))))
  | connected =>
    exact .cons .socket (.cons .noDelay (.cons .keepAlive (.cons .connect (.cons .readLimit
      (.single .writeLimit)))))

/-- The last attempt is over the socket that it succeeds with. -/
theorem Reached.lastOpener?_eq {s : Socket} (h : Reached t es (.ok s)) :
    lastOpener? es = some s := by
  cases h with
  | reached h houtcome =>
    obtain ⟨before, x, rfl, hs⟩ := eq_concat_of_outcomeOf houtcome
    have hx : lastOpener? x.events = some s := by
      have hattempted := h.attempted x (by simp)
      rw [hs] at hattempted
      generalize x.events = es at hattempted
      cases hattempted
      rfl
    rw [List.flatMap_append, List.flatMap_singleton, ← List.cons_append]
    exact lastOpener?_append _ hx

/-- Attempts that all fail lead back to where they started. -/
theorem path_of_failed {trials : List Trial}
    (h : ∀ x ∈ trials, t.Attempted x.address x.events x.outcome)
    (hfailed : ∀ x ∈ trials, ∃ e, x.outcome = .error e) :
    Phase.Path .idle (trials.flatMap Trial.events) .idle := by
  induction trials with
  | nil => exact .nil
  | cons x trials ih =>
    obtain ⟨hx, hrest⟩ := List.forall_mem_cons.mp h
    obtain ⟨⟨e, he⟩, hfailed⟩ := List.forall_mem_cons.mp hfailed
    rw [he] at hx
    exact hx.path.append (ih hrest hfailed)

theorem InTurn.path {trials : List Trial} {r : Except SystemError Socket}
    (h : t.InTurn addresses trials) (houtcome : outcomeOf e trials = r) :
    Phase.Path .idle (trials.flatMap Trial.events) (.afterSearch r) := by
  subst houtcome
  rcases List.eq_nil_or_concat trials with rfl | ⟨before, x, rfl⟩
  · exact .nil
  · rw [List.concat_eq_append] at h ⊢
    obtain ⟨hbefore, hx⟩ := List.forall_mem_append.mp h.attempted
    rw [outcomeOf_concat, List.flatMap_append, List.flatMap_singleton]
    exact (path_of_failed hbefore h.failed_before).append (hx x List.mem_cons_self).path

theorem Reached.path {r : Except TransportError Socket} (h : Reached t es r) :
    Phase.Path .idle es (.afterSearch r) := by
  cases h with
  | unresolved => exact .single .resolve
  | unreached h houtcome => exact .cons .resolve (h.path houtcome)
  | reached h houtcome => exact .cons .resolve (h.path houtcome)

end Transport

/-- The last attempt at a handshake is over the socket that all of them are over. -/
theorem Pending.Attempts.lastOpener?_eq {s : Socket} {request : Tls.Request} {v v' : Verifier}
    {es : List Event} {o : Except Tls.Failure Tls.Negotiated} (h : Attempts s request v es v' o) :
    lastOpener? es = some s := by
  induction h with
  | decided => rfl
  | interrupted _ _ ih => exact lastOpener?_append [_] ih

theorem Pending.Attempts.path {s second : Socket} {request : Tls.Request} {v v' : Verifier}
    {es : List Event} {o : Except Tls.Failure Tls.Negotiated}
    (h : Attempts second request v es v' o) :
    Phase.Path (.shaking s second) es (.afterHandshake s second o) := by
  induction h with
  | decided ha =>
    rw [← Phase.afterAttempt_of_decided ha]
    exact .single .handshake
  | interrupted ha _ ih =>
    refine .cons .handshake ?_
    rw [Phase.afterAttempt_of_interrupted ha]
    exact ih

namespace Client

/-- The phase that a client over TLS is in between two calls. -/
def phase (c : Client) : Phase :=
  match c.session, c.transport.stream with
  | some session, some s => .secured s session.socket
  | _, _ => .idle

variable {c : Client}

theorem phase_of_no_session (h : c.session = none) : c.phase = .idle := by
  rw [phase, h]

theorem phase_of_session {session : Session} {s : Socket} (h : c.session = some session)
    (hs : c.transport.stream = some s) : c.phase = .secured s session.socket := by
  rw [phase, h, hs]

theorem Opening.path {ctx : Context} {es : List Event} {r : Except ConnectionError Unit × Client}
    (h : Opening c ctx es r) (hsession : c.session = none) :
    Phase.Path .idle es r.2.phase := by
  have hidle : (c.carriedBy none).phase = .idle := phase_of_no_session hsession
  cases h with
  | unmade hes =>
    rw [phase_of_no_session hsession]
    exact .of_isSetUp hes
  | unreached hes h =>
    show Phase.Path .idle _ (c.carriedBy none).phase
    rw [hidle]
    exact (Phase.Path.of_isSetUp hes).append h.path
  | undoubled hes h =>
    show Phase.Path .idle _ (c.carriedBy none).phase
    rw [hidle]
    exact ((Phase.Path.of_isSetUp hes).append h.path).append (.cons .noDuplicate (.single .cleanUp))
  | refused hes h ha =>
    show Phase.Path .idle _ (c.carriedBy none).phase
    rw [hidle]
    exact ((Phase.Path.of_isSetUp hes).append h.path).append
      (.cons .duplicate (ha.path.concat .cleanUp))
  | secured hes h ha =>
    exact ((Phase.Path.of_isSetUp hes).append h.path).append (.cons .duplicate ha.path)

/-- A call of a client over TLS leads from one phase to another. -/
theorem Move.path {call : Call} {es : List Event} {r : call.Reply × Client}
    (h : Move c call es r) (hc : c.Coherent) (htls : c.endpoint.tls = true) :
    Phase.Path c.phase es r.2.phase := by
  -- Over TLS there is no connection without a session: nothing is raw, and every close announces.
  have hstream := hc.isSome_session htls
  cases h with
  | openAlready => exact .nil
  | opening _ _ hsession _ h =>
    rw [phase_of_no_session hsession]
    exact h.opening.path hsession
  | connecting hplain => rw [htls] at hplain; exact nomatch hplain
  | unsent => exact .nil
  | unreceived => exact .nil
  | records _ hsession hes =>
    rw [hsession] at hstream
    obtain ⟨s, hs⟩ := Option.isSome_iff_exists.mp hstream.symm
    rw [phase_of_session hsession hs]
    exact .of_isRecord hes
  | raw _ hsession hsome => rw [hsession, hsome] at hstream; exact nomatch hstream
  | closeSession hsession hs =>
    rw [phase_of_session hsession hs]
    exact .cons .announce (.single .shutdown)
  | closeTransport hsession hs => rw [hsession, hs] at hstream; exact nomatch hstream
  | closeNothing => exact .nil

/-! ## What a call does to the connection and the session -/

/-- Whether a client over TLS has a connection, whether it has a session and whether it is open are
the same, and a plain client is open exactly if it has a connection. -/
theorem Coherent.isOpen_eq (hc : c.Coherent) : c.isOpen = c.transport.stream.isSome := by
  rw [isOpen, Transport.isConnected]
  split
  · next htls => rw [hc.session, htls, Bool.true_and]
  · rfl

/-- After a call, there is a connection exactly if the call has opened it, or has left it. -/
theorem Move.isSome_stream_iff {call : Call} {es : List Event} {r : call.Reply × Client}
    (h : Move c call es r) : r.2.transport.stream.isSome = true ↔
      (Exchange.mk call r.1 es).opens = true ∨
        call ≠ .close ∧ c.transport.stream.isSome = true := by
  cases h with
  | openAlready | unsent | unreceived => simp [Exchange.opens]
  | @opening _ _ _ r _ _ hsession hstream h =>
    obtain ⟨-, h⟩ := h.opening.isSome_iff hsession hstream
    rw [h, hstream]
    cases r.1 <;> simp [Exchange.opens, Except.toBool]
  | connecting _ hstream h =>
    cases h with
    | reached => exact ⟨fun _ => .inl rfl, fun _ => rfl⟩
    | unresolved | unreached =>
      exact ⟨fun hsome => .inr ⟨by simp, hsome⟩, fun h => h.elim (fun ho => by cases ho) And.right⟩
  | records htransfer | raw htransfer =>
    cases call with
    | send | recv => simp [Exchange.opens]
    | _ => cases htransfer
  | closeSession | closeTransport => simp [ended, Exchange.opens]
  | closeNothing _ hstream => simp [hstream, Exchange.opens]

/-- The socket over which bytes of the client move: that of its session, if there is one, and else
that of its connection. -/
def carrier? (c : Client) : Option Socket :=
  match c.session with
  | some session => some session.socket
  | none => c.transport.stream

theorem carrier?_carriedBy (hsession : c.session = none) (stream : Option Socket) :
    (c.carriedBy stream).carrier? = stream := by
  have hsession' : (c.carriedBy stream).session = none := hsession
  rw [carrier?, hsession']
  rfl

/-- A client that opens carries bytes over the socket of the last step. -/
theorem Opening.lastOpener?_eq {ctx : Context} {es : List Event}
    {r : Except ConnectionError Unit × Client} (h : Opening c ctx es r)
    (hsession : c.session = none) (hstream : c.transport.stream = none) {s : Socket}
    (hs : r.2.carrier? = some s) :
    r.1 = .ok () ∧ lastOpener? es = some s := by
  have hidle : c.carrier? = none := by rw [carrier?, hsession, hstream]
  have hdown := carrier?_carriedBy hsession none
  cases h with
  | unmade => exact absurd (hidle.symm.trans hs) (by simp)
  | unreached | undoubled | refused => exact absurd (hdown.symm.trans hs) (by simp)
  | secured _ _ ha =>
    obtain rfl := Option.some.inj hs
    exact ⟨rfl, lastOpener?_append _ (lastOpener?_append [_] ha.lastOpener?_eq)⟩

/-- After a call, bytes move over the socket that the call has opened, or over the one before. -/
theorem Move.socket?_or_carrier? {call : Call} {es : List Event} {r : call.Reply × Client}
    (h : Move c call es r) (hc : c.Coherent) {s : Socket} (hs : r.2.carrier? = some s) :
    (Exchange.mk call r.1 es).socket?.or c.carrier? = some s := by
  have hopened {x : Exchange} (hopens : x.opens = true) (hlast : lastOpener? x.events = some s) :
      x.socket?.or c.carrier? = some s := by
    rw [Exchange.socket?, if_pos hopens, hlast]
    rfl
  have hkept {x : Exchange} (hopens : x.opens = false) (hs : c.carrier? = some s) :
      x.socket?.or c.carrier? = some s := by
    rw [Exchange.socket?, if_neg (by simp [hopens])]
    exact hs
  cases h with
  | openAlready | unsent | unreceived => exact hkept rfl hs
  | @opening _ _ _ r _ _ hsession hstream h =>
    obtain ⟨hr, hlast⟩ := h.opening.lastOpener?_eq hsession hstream hs
    exact hopened (by rw [hr]; rfl) hlast
  | @connecting _ _ o htls hstream h =>
    have hsession := hc.session_eq_none htls
    cases o with
    | error e => exact hkept rfl hs
    | ok s' =>
      have hcarrier : some s' = some s := by rwa [carrier?, hsession] at hs
      obtain rfl := Option.some.inj hcarrier
      exact hopened rfl h.lastOpener?_eq
  | records htransfer | raw htransfer =>
    cases call with
    | send | recv => exact hkept rfl hs
    | _ => exact nomatch htransfer
  | closeSession | closeTransport => exact nomatch hs
  | closeNothing => exact hkept rfl hs

/-- Bytes move over the socket of the last call that has opened. -/
theorem Move.lastSocket?_concat {call : Call} {es : List Event} {r : call.Reply × Client}
    (h : Move c call es r) (hc : c.Coherent) {before : List Exchange}
    (hbefore : ∀ s, c.carrier? = some s → lastSocket? before = some s) {s : Socket}
    (hs : r.2.carrier? = some s) : lastSocket? (before ++ [⟨call, r.1, es⟩]) = some s := by
  have hor := h.socket?_or_carrier? hc hs
  rw [SecureStream.lastSocket?_concat]
  cases hx : (Exchange.mk call r.1 es).socket? with
  | none =>
    rw [hx] at hor
    exact hbefore s hor
  | some s' =>
    rw [hx] at hor
    exact hor

/-- Sending and receiving leave the client as it is. -/
theorem answer_of_isTransfer {call : Call} (h : call.isTransfer = true) (w : World σ) :
    (c.answer E call w).1.2 = c := by
  cases call with
  | send | recv => rfl
  | _ => exact nomatch h

/-- Opening announces no end, not even if it fails. -/
theorem Opening.not_isTlsShutdown {ctx : Context} {es : List Event}
    {r : Except ConnectionError Unit × Client} (h : Opening c ctx es r) :
    ∀ ev ∈ es, ev.op.isTlsShutdown = false :=
  not_isTlsShutdown_of (p := Op.IsOpening) (fun _ h => h.elim id id) h.isOpening

/-- The end of a session is announced when the client is closed, and at no other time. -/
theorem Move.not_isTlsShutdown {call : Call} {es : List Event} {r : call.Reply × Client}
    (h : Move c call es r) (hclose : call = .close → c.session = none) :
    ∀ ev ∈ es, ev.op.isTlsShutdown = false := by
  cases h with
  | opening _ _ _ _ h => exact h.opening.not_isTlsShutdown
  | connecting _ _ h =>
    exact not_isTlsShutdown_of (p := Op.IsConnecting) (fun _ h => h) h.isConnecting
  | records _ _ hes => exact not_isTlsShutdown_of (fun _ h => h) hes
  | raw _ _ _ hes => exact not_isTlsShutdown_of (p := fun op => op.isRaw = true) nofun hes
  | closeSession hsession => rw [hclose rfl] at hsession; exact nomatch hsession
  | closeTransport => exact List.forall_mem_singleton.mpr rfl
  | _ => exact fun _ hev => absurd hev List.not_mem_nil

end Client

/-! ## All calls -/

section

variable {κ : Type} [DecidableEq κ] {clients : κ → Client} {k : κ}

theorem conversation_coherent (hk : (clients k).Coherent) (calls : List (κ × Call))
    (w : World σ) : (conversation E clients calls w k).client.Coherent :=
  conversation_induction (P := fun t => t.client.Coherent) hk hk
    (fun _ _ _ _ hc _ hmove _ => hmove.coherent hc) calls w

theorem conversation_endpoint_eq (hk : (clients k).Coherent) (calls : List (κ × Call))
    (w : World σ) : (conversation E clients calls w k).client.endpoint = (clients k).endpoint :=
  conversation_induction (P := fun t => t.client.endpoint = (clients k).endpoint) hk rfl
    (fun _ _ _ _ _ ih hmove _ => hmove.endpoint_eq.trans ih) calls w

/-- There is a connection exactly while the client has been opened. -/
theorem conversation_isSome_stream_iff (hk : (clients k).Coherent)
    (hstream : (clients k).transport.stream = none) (calls : List (κ × Call)) (w : World σ) :
    (conversation E clients calls w k).client.transport.stream.isSome = true ↔
      Opened (conversation E clients calls w k).exchanges := by
  refine conversation_induction (E := E)
    (P := fun t => t.client.transport.stream.isSome = true ↔ Opened t.exchanges) hk ?_
    (fun t call es r _ ih hmove _ => ?_) calls w
  · simp [Conversation.start, hstream, Opened.not_nil]
  · rw [hmove.isSome_stream_iff, Opened.concat_iff, ih]

/-- **A client over TLS goes through the phases of a connection in order.** -/
theorem conversation_path (hk : (clients k).Coherent) (htls : (clients k).endpoint.tls = true)
    (hsession : (clients k).session = none) (calls : List (κ × Call)) (w : World σ) :
    Phase.Path .idle (conversation E clients calls w k).events
      (conversation E clients calls w k).client.phase := by
  refine (conversation_induction (E := E) (P := fun t =>
    t.client.endpoint.tls = true ∧ Phase.Path .idle t.events t.client.phase) hk
    ⟨htls, ?_⟩ (fun t call es r hc ih hmove _ => ?_) calls w).2
  · rw [Conversation.start, Client.phase_of_no_session hsession]
    exact .nil
  · obtain ⟨htls, hpath⟩ := ih
    refine ⟨by rw [hmove.endpoint_eq, htls], ?_⟩
    rw [Conversation.events, List.flatMap_append, List.flatMap_singleton]
    exact hpath.append (hmove.path hc htls)

/-- What an exchange announces: the end of the session if the call was to close an open client over
TLS, right before its connection is shut down, and nothing otherwise. -/
structure Announcement (endpoint : Endpoint) (before : List Exchange) (x : Exchange) : Prop where
  close : endpoint.tls = true → x.call = .close → Opened before →
    ∃ s second a b, x.events = [⟨.tlsShutdown second, a⟩, ⟨.shutdown s, b⟩]
  otherwise : ¬ (endpoint.tls = true ∧ x.call = .close ∧ Opened before) →
    ∀ ev ∈ x.events, ev.op.isTlsShutdown = false

theorem Client.Move.announcement {c : Client} {call : Call} {es : List Event}
    {r : call.Reply × Client} {before : List Exchange} (h : Move c call es r) (hc : c.Coherent)
    (hopened : c.transport.stream.isSome = true ↔ Opened before) :
    Announcement c.endpoint before ⟨call, r.1, es⟩ := by
  constructor
  · rintro htls rfl hbefore
    have hstream : c.transport.stream.isSome = true := hopened.mpr hbefore
    have hsession : c.session.isSome = true := by rw [hc.isSome_session htls, hstream]
    cases h with
    | records htransfer | raw htransfer => exact nomatch htransfer
    | closeSession => exact ⟨_, _, _, _, rfl⟩
    | closeTransport hnone | closeNothing hnone => rw [hnone] at hsession; exact nomatch hsession
  · intro hnot
    refine h.not_isTlsShutdown fun hclose => ?_
    by_contra hsome
    have hboth : (c.endpoint.tls && c.transport.stream.isSome) = true := by
      rw [← hc.session]
      exact Option.isSome_iff_ne_none.mpr hsome
    obtain ⟨htls, hstream⟩ := Bool.and_eq_true_iff.mp hboth
    exact hnot ⟨htls, hclose, hopened.mp hstream⟩

theorem conversation_announcement (hk : (clients k).Coherent)
    (hstream : (clients k).transport.stream = none) (calls : List (κ × Call)) (w : World σ)
    {before after : List Exchange} {x : Exchange}
    (h : (conversation E clients calls w k).exchanges = before ++ x :: after) :
    Announcement (clients k).endpoint before x := by
  refine conversation_exchange (E := E) (P := fun t => t.client.endpoint = (clients k).endpoint ∧
    (t.client.transport.stream.isSome = true ↔ Opened t.exchanges)) hk ⟨rfl, ?_⟩
    (fun t call es r hc ⟨hendpoint, hopened⟩ hmove _ => ⟨⟨?_, ?_⟩, ?_⟩) calls w h
  · simp [Conversation.start, hstream, Opened.not_nil]
  · rw [hmove.endpoint_eq, hendpoint]
  · rw [hmove.isSome_stream_iff, Opened.concat_iff, hopened]
  · rw [← hendpoint]
    exact hmove.announcement hc hopened

/-- The client neither sends nor receives, says that it is not connected, and does nothing at all.
-/
structure Client.IsSilent (E : Environment σ) (c : Client) : Prop where
  send : ∀ bytes w, c.send E bytes w = (.error (.transport .notConnected), w)
  recv : ∀ buffer w, c.recv E buffer w = ((.error (.transport .notConnected), buffer), w)

theorem Client.Coherent.isSilent {c : Client} (hc : c.Coherent) (htls : c.endpoint.tls = true)
    (hsession : c.session = none) : c.IsSilent E := by
  have hstream : c.transport.stream = none := hc.stream_eq_none htls hsession
  constructor
  · intro bytes w
    rw [send_unconnected hsession hstream]
    rfl
  · intro buffer w
    rw [recv_unconnected hsession hstream]
    rfl

/-- **A client over TLS moves no raw bytes, whatever is asked of it and whatever happens, and it is
silent while it has no session.** -/
theorem conversation_not_isRaw {endpoint : Endpoint} {context : Option Context}
    (hnew : Client.new endpoint context = .ok (clients k)) (htls : endpoint.tls = true)
    (calls : List (κ × Call)) (w : World σ) :
    (∀ ev ∈ (conversation E clients calls w k).events, ev.op.isRaw = false) ∧
      ((conversation E clients calls w k).client.session = none →
        (conversation E clients calls w k).client.IsSilent E) ∧
      (ConnectionError.transport .notConnected).code = .ipObjectNotInitialized := by
  have hk := (Client.isNew_of_new hnew).coherent
  have hsession := (Client.isNew_of_new hnew).session_eq
  have htls' : (clients k).endpoint.tls = true := by
    rw [(Client.isNew_of_new hnew).endpoint_eq, htls]
  refine ⟨(conversation_path hk htls' hsession calls w).not_isRaw, fun hnone => ?_, rfl⟩
  refine (conversation_coherent hk calls w).isSilent ?_ hnone
  rw [conversation_endpoint_eq hk, htls']

theorem conversation_not_isRaw_loopback :
    (Client.new Peer.Loopback.endpoint (some (Peer.Loopback.context .lenient)) =
      .ok (Peer.Loopback.clients .lenient true)) ∧ Peer.Loopback.endpoint.tls = true ∧
    ∀ ev ∈ (conversation Peer.Network.environment (Peer.Loopback.clients .lenient)
      [(true, .send [1]), (true, .connect "first"), (true, .send [2]), (false, .connect "second"),
        (true, .close), (true, .recv [0])]
      (.start (Peer.Loopback.network [])) true).events, ev.op.isRaw = false :=
  have hnew := Peer.Loopback.new_eq .lenient true
  ⟨hnew, rfl, (conversation_not_isRaw hnew rfl _ _).1⟩

/-- What the state of a client, its answers and the events on its behalf have to do with what has
been asked of it. -/
structure Lifecycle (E : Environment σ) (endpoint : Endpoint) (t : Conversation) : Prop where
  session_iff : t.client.session.isSome = true ↔ endpoint.tls = true ∧ Opened t.exchanges
  stream_iff_session : endpoint.tls = true →
    (t.client.transport.stream.isSome = true ↔ t.client.session.isSome = true)
  plain : endpoint.tls = false → t.client.session = none ∧
    (t.client.transport.stream.isSome = true ↔ Opened t.exchanges)
  isOpen_iff : t.client.isOpen = true ↔ Opened t.exchanges
  sessionInfo_isSome : t.client.sessionInfo.isSome = t.client.session.isSome
  certStatus_isSome : t.client.certStatus.isSome = t.client.session.isSome
  transfer : ∀ call, call.isTransfer = true → ∀ w, (t.ask E call w).1.client = t.client
  path : endpoint.tls = true → Phase.Path .idle t.events t.client.phase
  announcement : ∀ before x after, t.exchanges = before ++ x :: after →
    Announcement endpoint before x

/-- **Whatever is asked of a client and whatever happens, it is open exactly while some call to
connect has succeeded and there was no call to close since. A client over TLS goes through the
phases of a connection in order, and announces the end of every session that is closed once.** -/
theorem conversation_lifecycle {endpoint : Endpoint} {context : Option Context}
    (hnew : Client.new endpoint context = .ok (clients k)) (calls : List (κ × Call)) (w : World σ) :
    Lifecycle E endpoint (conversation E clients calls w k) := by
  have hnew' := Client.isNew_of_new hnew
  have hk := hnew'.coherent
  have hc := conversation_coherent (E := E) hk calls w
  have hendpoint := conversation_endpoint_eq (E := E) hk calls w
  have hopened := conversation_isSome_stream_iff (E := E) hk hnew'.stream_eq calls w
  rw [hnew'.endpoint_eq] at hendpoint
  refine ⟨?_, fun htls => ?_, fun htls => ⟨?_, hopened⟩, ?_, Option.isSome_map, Option.isSome_map,
    fun call hcall w' => Client.answer_of_isTransfer hcall w', fun htls => ?_,
    fun before x after h => ?_⟩
  · rw [hc.session, hendpoint, Bool.and_eq_true_iff, hopened]
  · rw [hc.isSome_session (by rw [hendpoint, htls])]
  · exact hc.session_eq_none (by rw [hendpoint, htls])
  · rw [hc.isOpen_eq, hopened]
  · refine conversation_path hk ?_ hnew'.session_eq calls w
    rw [hnew'.endpoint_eq, htls]
  · rw [← hnew'.endpoint_eq]
    exact conversation_announcement hk hnew'.stream_eq calls w h

theorem conversation_lifecycle_loopback :
    (Client.new Peer.Loopback.endpoint (some (Peer.Loopback.context .strict)) =
      .ok (Peer.Loopback.clients .strict true)) ∧
    Lifecycle Peer.Network.environment Peer.Loopback.endpoint
      (conversation Peer.Network.environment (Peer.Loopback.clients .strict)
        [(true, .connect "first"), (false, .connect "second"), (true, .recv [0])]
        (.start (Peer.Loopback.network [.write [1]])) true) ∧
    (conversation Peer.Network.environment (Peer.Loopback.clients .strict)
      [(true, .connect "first"), (false, .connect "second"), (true, .recv [0])]
      (.start (Peer.Loopback.network [.write [1]])) true).client.isOpen = true :=
  have hnew := Peer.Loopback.new_eq .strict true
  ⟨hnew, conversation_lifecycle hnew _ _, by decide +kernel⟩

end

end SecureStream
