import SecureStream.Client
import SecureStream.Proofs.Preparation
import SecureStream.Proofs.Trials

/-!
# What opening a client does

One lemma for each step on the way: which events it may add to the past, and with what result.

* `Transport.Reached`, `Transport.emits_connect`: look for the peer and connect;
* `Pending.Attempts`, `Pending.emits_handshake`: the attempts at a handshake, the verifier going
  from one to the next;
* `Op.Asks`: operations that ask the TLS library for one session only;
* `Client.Establishing`, `Client.emits_establish`: what becomes of a pending session;
* `Client.Course`, `Client.emits_course`: what becomes of an attempt to open a client over TLS;
* `Client.Opening`, **`Client.emits_connect`**: the same without the details of setting up.
-/

namespace SecureStream

variable {σ : Type} {E : Environment σ}

/-! ## Connecting -/

namespace Transport

/-- What a transport without a connection may do to get one, and what comes of it. -/
inductive Reached (t : Transport) : List Event → Except TransportError Socket → Prop
  | unresolved {e} : Reached t [⟨.resolve t.host t.port, .error e⟩]
    (.error (.invalidRemoteAddr t.host t.port e))
  | unreached {addresses trials e} : t.InTurn addresses trials →
    outcomeOf noAddresses trials = .error e →
    Reached t (⟨.resolve t.host t.port, .ok addresses⟩ :: trials.flatMap Trial.events)
      (.error (.connectFailed t.host t.port e))
  | reached {addresses trials s} : t.InTurn addresses trials →
    outcomeOf noAddresses trials = .ok s →
    Reached t (⟨.resolve t.host t.port, .ok addresses⟩ :: trials.flatMap Trial.events) (.ok s)

section

variable {t : Transport} {address : SocketAddress} {addresses : List SocketAddress}
  {trials : List Trial} {es : List Event}

theorem Attempted.isConnecting {r : Except SystemError Socket} (h : Attempted t address es r) :
    ∀ ev ∈ es, ev.op.IsConnecting := by
  cases h <;> simp [Op.IsConnecting]

theorem InTurn.isConnecting (h : t.InTurn addresses trials) :
    ∀ ev ∈ trials.flatMap Trial.events, ev.op.IsConnecting :=
  List.forall_mem_flatMap.mpr fun x hx => (h.attempted x hx).isConnecting

/-- To get a connection, the peer is looked for and connected to, and nothing else is done. -/
theorem Reached.isConnecting {r : Except TransportError Socket} (h : Reached t es r) :
    ∀ ev ∈ es, ev.op.IsConnecting := by
  cases h with
  | unresolved => exact List.forall_mem_singleton.mpr trivial
  | unreached h => exact List.forall_mem_cons.mpr ⟨trivial, h.isConnecting⟩
  | reached h => exact List.forall_mem_cons.mpr ⟨trivial, h.isConnecting⟩

end

/-- What becomes of the transport comes of the attempts as a whole. -/
theorem Sought.reached {t : Transport} {msg : String}
    {answer : Except SystemError (List SocketAddress)} {trials : List Trial} {es : List Event}
    {lines : List LogLine} {r : Except TransportError Unit × Transport}
    (h : t.Sought msg answer trials es lines r) : ∃ o, Reached t es o ∧ r = t.settled o := by
  obtain rfl := h.events_eq
  cases answer with
  | error e =>
    obtain ⟨rfl, hr⟩ := h.unresolved e rfl
    exact ⟨_, .unresolved, hr⟩
  | ok addresses =>
    have hturn := h.inTurn addresses rfl
    rcases List.eq_nil_or_concat trials with rfl | ⟨before, x, rfl⟩
    · -- Without an attempt there was no address to be tried.
      obtain rfl : [] = addresses := hturn.all fun x hx => absurd hx List.not_mem_nil
      exact ⟨_, .unreached hturn rfl, h.homeless rfl⟩
    · rw [List.concat_eq_append] at hturn h ⊢
      have houtcome := outcomeOf_concat noAddresses before x
      cases hx : x.outcome with
      | ok s =>
        exact ⟨_, .reached hturn (houtcome.trans hx), h.connected x (by simp) s hx⟩
      | error e => exact ⟨_, .unreached hturn (houtcome.trans hx), h.refused before x e rfl hx⟩

theorem emits_connect {t : Transport} (ht : t.stream = none) (msg : String) :
    Emits E (t.connect E msg) fun es r => ∃ o, Reached t es o ∧ r = t.settled o := by
  refine Leaves.mono (leaves_connect ht msg) ?_
  rintro _ _ _ ⟨answer, trials, h⟩
  exact h.reached

theorem emits_duplicate {t : Transport} {s : Socket} (ht : t.stream = some s) :
    Emits E (t.duplicate E) fun es r => ∃ a : Except SystemError Socket,
      es = [⟨.duplicate s, a⟩] ∧ r = a.mapError .socket := by
  unfold duplicate
  rw [ht]
  refine .perform_bind fun a => ?_
  cases a with
  | ok second => exact .pure ⟨.ok second, rfl, rfl⟩
  | error e => exact .pure ⟨.error e, rfl, rfl⟩

/-- The answer after shutting a connection down: one that is gone already has been closed. -/
def parted : Except SystemError Unit → Except TransportError Unit
  | .ok () => .ok ()
  | .error e => if e.kind = .notConnected then .ok () else .error (.close e)

theorem emits_close {t : Transport} {s : Socket} (ht : t.stream = some s) :
    Emits E (t.close E) fun es r =>
      ∃ a, es = [⟨.shutdown s, a⟩] ∧ r = (parted a, { t with stream := none }) := by
  unfold close
  rw [ht]
  refine .perform_bind fun a => ?_
  cases a with
  | ok _ => exact .pure ⟨_, rfl, rfl⟩
  | error e =>
    dsimp only
    split
    · next hgone => exact .pure ⟨.error e, rfl, by rw [parted, if_pos hgone]⟩
    · next hgone => exact .pure ⟨.error e, rfl, by rw [parted, if_neg hgone]⟩

end Transport

/-! ## Shaking hands -/

namespace Pending

/-- Attempts at a handshake, all but the last one interrupted: the verifier before and after them,
and how they ended. -/
inductive Attempts (s : Socket) (request : Tls.Request) :
    Verifier → List Event → Verifier → Except Tls.Failure Tls.Negotiated → Prop
  | decided {v} {a : Tls.Attempt} : isInterrupted a.outcome = false →
    Attempts s request v [⟨.handshake s request v, a⟩] (v.observe a.calls).2 a.outcome
  | interrupted {v v' es o} {a : Tls.Attempt} : isInterrupted a.outcome = true →
    Attempts s request (v.observe a.calls).2 es v' o →
    Attempts s request v (⟨.handshake s request v, a⟩ :: es) v' o

section

variable {s : Socket} {request : Tls.Request} {v v' : Verifier} {es : List Event}
  {o : Except Tls.Failure Tls.Negotiated}

theorem Attempts.op_eq (h : Attempts s request v es v' o) :
    ∀ ev ∈ es, ∃ u, ev.op = .handshake s request u := by
  induction h with
  | decided => exact List.forall_mem_singleton.mpr ⟨_, rfl⟩
  | interrupted _ _ ih => exact List.forall_mem_cons.mpr ⟨⟨_, rfl⟩, ih⟩

theorem Attempts.isOpening (h : Attempts s request v es v' o) : ∀ ev ∈ es, ev.op.IsOpening := by
  intro ev hev
  obtain ⟨u, hop⟩ := h.op_eq ev hev
  rw [hop]
  trivial

end

/-- What a handshake results in, by how its attempts ended. -/
def concluded (p : Pending) (s : Socket) (v : Verifier) :
    Except Tls.Failure Tls.Negotiated → Except ConnectionError Session
  | .error e => .error (.handshake p.verifier.serverName e.message v.status)
  | .ok negotiated => .ok ⟨s, v, SessionInfo.ofNegotiated p.request negotiated⟩

/-- All attempts at a handshake: how they ended, and what the verifier knows then. -/
def attempts (E : Environment σ) (socket : Socket) (request : Tls.Request) (v : Verifier) :
    Act σ (Except Tls.Failure Tls.Negotiated × Verifier) := fun w =>
  let r := Retry.run (bounded_attemptHandshake E socket request) (w, v)
  ((r.1, r.2.2), r.2.1)

/-- What is logged after all attempts at a handshake. -/
def verdictLines (p : Pending) : Except Tls.Failure Tls.Negotiated → List LogLine
  | .error e =>
    [.error ("SSL handshake with " ++ p.verifier.serverName ++ " failed: " ++ e.message)]
  | .ok negotiated =>
    let info := SessionInfo.ofNegotiated p.request negotiated
    .info ("SSL connection using: " ++ info.text) :: match info.peer with
      | some cert => [.info ("SSL server cert subject: " ++ cert.subject),
        .info ("SSL server cert issuer: " ++ cert.issuer)]
      | none => [.warn noCertificate.message]

/-- A handshake is all attempts at it, and then a session is counted if there is one. -/
theorem handshake_eq (E : Environment σ) (p : Pending) (socket : Socket) :
    p.handshake E socket = do
      let (o, v) ← attempts E socket p.request p.verifier
      modify fun w => { w with openSessions := w.openSessions + o.toBool.toNat }
      modify fun w => w.record (p.verdictLines o)
      return p.concluded socket v o := by
  funext w
  rcases hrun : Retry.run (bounded_attemptHandshake E socket p.request) (w, p.verifier)
    with ⟨o, w₁, v⟩
  have hattempts : attempts E socket p.request p.verifier w = ((o, v), w₁) := by
    rw [attempts, hrun]
  rw [bind_of_eq hattempts, handshake, hrun]
  cases o with
  | error e => rfl
  | ok negotiated => rfl

/-- What happens after one attempt. -/
theorem ends_attempt (s : Socket) (request : Tls.Request) {x : World σ × Verifier} {α : Type}
    {r : α × World σ} {P : List Event → α → Prop}
    (h : World.Ends E (attemptHandshake E s request x).2.1 r fun es _ a =>
      P (⟨.handshake s request x.2, (perform E _ x.1).1⟩ :: es) a) :
    World.Ends E x.1 r fun es _ a => P es a :=
  .after_perform (.after_record h)

variable (E) in
theorem emits_attempts (s : Socket) (request : Tls.Request) (v : Verifier) :
    Emits E (attempts E s request v) fun es r => Attempts s request v es r.2 r.1 := by
  intro w
  refine Retry.run_induction (P := fun (x : World σ × Verifier) r =>
      World.Ends E x.1 ((r.1, r.2.2), r.2.1) fun es _ a => Attempts s request x.2 es a.2 a.1)
    (bounded_attemptHandshake E s request) (fun x hx => ?_) (fun x r hx hrest => ?_) (w, v)
  · have hdecided : Attempts s request x.2 [⟨.handshake s request x.2, _⟩] _ _ := .decided hx
    exact ends_attempt s request (.self hdecided)
  · exact ends_attempt s request (hrest.mono fun _ _ _ => .interrupted hx)

theorem emits_handshake (p : Pending) (s : Socket) :
    Emits E (p.handshake E s) fun es r => ∃ v o,
      Attempts s p.request p.verifier es v o ∧ r = p.concluded s v o := by
  rw [handshake_eq]
  refine (emits_attempts E s p.request p.verifier).bind fun es ⟨o, v⟩ h => ?_
  refine .of_gains (fun _ => ⟨p.verdictLines o, rfl, rfl⟩) fun _ => ⟨v, o, ?_, rfl⟩
  rwa [List.append_nil]

end Pending

/-! ## What is asked of the TLS library -/

/-- The operation sets nothing up, and shakes hands for one request only. -/
def Op.Asks (request : Tls.Request) : Op → Prop
  | setUp _ | set _ => False
  | handshake _ request' _ => request' = request
  | _ => True

theorem Op.IsConnecting.asks {op : Op} (h : op.IsConnecting) (request : Tls.Request) :
    op.Asks request := by
  cases op with
  | setUp | set | handshake => exact absurd h id
  | _ => trivial

theorem Op.IsSetUp.not_asks {op : Op} (h : op.IsSetUp) {request : Tls.Request} :
    ¬ op.Asks request := by
  cases op with
  | setUp | set => exact id
  | _ => exact absurd h id

theorem Pending.Attempts.asks {s : Socket} {request : Tls.Request} {v v' : Verifier}
    {es : List Event} {o : Except Tls.Failure Tls.Negotiated} (h : Attempts s request v es v' o) :
    ∀ ev ∈ es, ev.op.Asks request := by
  intro ev hev
  obtain ⟨u, hop⟩ := h.op_eq ev hev
  rw [hop]
  rfl

/-! ## Opening -/

namespace Client

/-- The client with its transport made for the endpoint's port, over a connection or none. -/
def carriedBy (c : Client) (stream : Option Socket) : Client :=
  { c with transport := { c.transport with port := c.endpoint.connectPort, stream } }

/-- What a client without a connection may do to get open, once its session is pending, and how it
ends up. -/
inductive Establishing (c : Client) (p : Pending) :
    List Event → Except ConnectionError Unit × Client → Prop
  /-- The peer was not reached. -/
  | unreached {es e} : Transport.Reached (c.carriedBy none).transport es (.error e) →
    Establishing c p es (.error (.transport e), c.carriedBy none)
  /-- There was no second socket for the session. -/
  | undoubled {es s e a} : Transport.Reached (c.carriedBy none).transport es (.ok s) →
    Establishing c p (es ++ [⟨.duplicate s, .error e⟩, ⟨.shutdown s, a⟩])
      (.error (.transport (.socket e)), c.carriedBy none)
  /-- The handshake failed. -/
  | refused {es s second es' v e a} : Transport.Reached (c.carriedBy none).transport es (.ok s) →
    Pending.Attempts second p.request p.verifier es' v (.error e) →
    Establishing c p (es ++ ⟨.duplicate s, .ok second⟩ :: (es' ++ [⟨.shutdown s, a⟩]))
      (.error (.handshake p.verifier.serverName e.message v.status), c.carriedBy none)
  | secured {es s second es' v n} : Transport.Reached (c.carriedBy none).transport es (.ok s) →
    Pending.Attempts second p.request p.verifier es' v (.ok n) →
    Establishing c p (es ++ ⟨.duplicate s, .ok second⟩ :: es')
      (.ok (), { c.carriedBy (some s) with
        session := some ⟨second, v, SessionInfo.ofNegotiated p.request n⟩ })

variable {c : Client}

theorem emits_abort {s : Socket} (hc : c.transport.stream = some s) :
    Emits E (c.abort E) fun es c' => ∃ a, es = [⟨.shutdown s, a⟩] ∧
      c' = { c with transport := { c.transport with stream := none } } := by
  unfold abort
  refine (Transport.emits_close hc).bind ?_
  rintro _ _ ⟨a, rfl, rfl⟩
  cases Transport.parted a with
  | ok _ => exact .pure ⟨a, rfl, rfl⟩
  | error e => exact .say_bind (.pure ⟨a, rfl, rfl⟩)

theorem emits_establish (hc : c.transport.stream = none) (p : Pending) (msg : String) :
    Emits E (c.establish E p msg) (Establishing c p) := by
  have hport : { c.transport with port := c.endpoint.connectPort } =
      (c.carriedBy none).transport := by
    simp [carriedBy, hc]
  unfold establish
  rw [hport]
  refine (Transport.emits_connect rfl msg).bind ?_
  rintro es _ ⟨o, ho, rfl⟩
  cases o with
  | error e =>
    refine .pure ?_
    rw [List.append_nil]
    exact .unreached ho
  | ok s =>
    dsimp only [Transport.settled]
    refine (Transport.emits_duplicate rfl).bind ?_
    rintro _ _ ⟨a, rfl, rfl⟩
    cases a with
    | error e =>
      refine (emits_abort rfl).bind ?_
      rintro _ _ ⟨a, rfl, rfl⟩
      exact .pure (.undoubled ho)
    | ok second =>
      refine (p.emits_handshake second).bind ?_
      rintro es' _ ⟨v, o, hes', rfl⟩
      cases o with
      | error e =>
        refine (emits_abort rfl).bind ?_
        rintro _ _ ⟨a, rfl, rfl⟩
        refine .pure ?_
        simpa [carriedBy] using Establishing.refused (a := a) ho hes'
      | ok n =>
        refine .pure ?_
        simpa [carriedBy] using Establishing.secured ho hes'

/-- What becomes of an attempt to open a client over TLS. -/
inductive Course (c : Client) (ctx : Context) :
    List Event → Except ConnectionError Unit × Client → Prop
  /-- The peer has no name that it can be asked for by. -/
  | misnamed {reason} : Pending.nameFault? c.endpoint.remoteName = some reason →
    Course c ctx [] (.error (.serverName c.endpoint.remoteName reason), c)
  /-- The TLS library has refused a step. -/
  | unprepared {es step errors} : Pending.nameFault? c.endpoint.remoteName = none →
    SetUps (Pending.steps ctx c.endpoint.remoteName c.endpoint.priority) es
      (some (step, errors)) →
    Course c ctx es (.error (Pending.refusal c.endpoint.remoteName step errors), c)
  /-- The session is pending. -/
  | prepared {es es' r} : Pending.nameFault? c.endpoint.remoteName = none →
    SetUps (Pending.steps ctx c.endpoint.remoteName c.endpoint.priority) es none →
    Establishing c (Pending.made ctx c.endpoint.remoteName c.endpoint.priority) es' r →
    Course c ctx (es ++ es') r

/-- **What opening a client over TLS does, step by step.** -/
theorem emits_course {ctx : Context} (htls : c.endpoint.tls = true) (hctx : c.context = some ctx)
    (hsession : c.session = none) (hstream : c.transport.stream = none) (msg : String) :
    Emits E (c.connect E msg) (Course c ctx) := by
  unfold connect
  rw [if_neg (by simp [isOpen, htls, hsession]), if_pos htls, hctx]
  refine .say_bind ?_
  cases hname : Pending.nameFault? c.endpoint.remoteName with
  | some reason =>
    rw [Pending.create_of_nameFault hname]
    exact .pure (.misnamed hname)
  | none =>
    refine Emits.bind (Pending.prepares_create hname c.endpoint.priority) ?_
    rintro es _ ⟨_ | ⟨step, errors⟩, hes, rfl⟩
    · exact (emits_establish hstream _ msg).mono fun _ _ h => .prepared hname hes h
    · refine .pure ?_
      rw [List.append_nil]
      exact .unprepared hname hes

/-- Nothing is set up any more once a session is pending, and there is a handshake for it only. -/
theorem Establishing.asks {p : Pending} {es : List Event}
    {r : Except ConnectionError Unit × Client} (h : Establishing c p es r) :
    ∀ ev ∈ es, ev.op.Asks p.request := by
  have hreached {es : List Event} {o : Except TransportError Socket}
      (h : Transport.Reached (c.carriedBy none).transport es o) : ∀ ev ∈ es, ev.op.Asks p.request :=
    fun ev hev => (h.isConnecting ev hev).asks p.request
  cases h with
  | unreached h => exact hreached h
  | undoubled h => exact List.forall_mem_append.mpr ⟨hreached h, by simp [Op.Asks]⟩
  | refused h ha =>
    refine List.forall_mem_append.mpr ⟨hreached h, List.forall_mem_cons.mpr ⟨trivial, ?_⟩⟩
    exact List.forall_mem_append.mpr ⟨ha.asks, List.forall_mem_singleton.mpr trivial⟩
  | secured h ha =>
    exact List.forall_mem_append.mpr ⟨hreached h, List.forall_mem_cons.mpr ⟨trivial, ha.asks⟩⟩

/-- What is set up to open a client is a step of making its session. -/
theorem Course.op_mem {ctx : Context} {es : List Event}
    {r : Except ConnectionError Unit × Client} {ev : Event} (h : Course c ctx es r) (hev : ev ∈ es)
    (hop : ev.op.IsSetUp) :
    ev.op ∈ Pending.steps ctx c.endpoint.remoteName c.endpoint.priority := by
  cases h with
  | misnamed => cases hev
  | unprepared _ hes => exact hes.op_mem ev hev
  | prepared _ hes h =>
    rcases List.mem_append.mp hev with hev | hev
    · exact hes.op_mem ev hev
    · exact absurd (h.asks ev hev) hop.not_asks

/-- What a client over TLS without a connection may do to get open, and how it ends up. -/
inductive Opening (c : Client) (ctx : Context) :
    List Event → Except ConnectionError Unit × Client → Prop
  /-- The session could not be made. -/
  | unmade {es e} : (∀ ev ∈ es, ev.op.IsSetUp) → e.IsOfSetUp → Opening c ctx es (.error e, c)
  /-- The peer was not reached. -/
  | unreached {es es' e} : (∀ ev ∈ es, ev.op.IsSetUp) →
    Transport.Reached (c.carriedBy none).transport es' (.error e) →
    Opening c ctx (es ++ es') (.error (.transport e), c.carriedBy none)
  /-- There was no second socket for the session. -/
  | undoubled {es es' s e a} : (∀ ev ∈ es, ev.op.IsSetUp) →
    Transport.Reached (c.carriedBy none).transport es' (.ok s) →
    Opening c ctx (es ++ es' ++ [⟨.duplicate s, .error e⟩, ⟨.shutdown s, a⟩])
      (.error (.transport (.socket e)), c.carriedBy none)
  /-- The handshake failed. -/
  | refused {es es' s second request es'' v e a} : (∀ ev ∈ es, ev.op.IsSetUp) →
    Transport.Reached (c.carriedBy none).transport es' (.ok s) →
    Pending.Attempts second request (.fresh c.endpoint.remoteName ctx.config.policy) es'' v
      (.error e) →
    Opening c ctx (es ++ es' ++ ⟨.duplicate s, .ok second⟩ :: (es'' ++ [⟨.shutdown s, a⟩]))
      (.error (.handshake c.endpoint.remoteName e.message v.status), c.carriedBy none)
  | secured {es es' s second request es'' v n} : (∀ ev ∈ es, ev.op.IsSetUp) →
    Transport.Reached (c.carriedBy none).transport es' (.ok s) →
    Pending.Attempts second request (.fresh c.endpoint.remoteName ctx.config.policy) es'' v
      (.ok n) →
    Opening c ctx (es ++ es' ++ ⟨.duplicate s, .ok second⟩ :: es'')
      (.ok (), { c.carriedBy (some s) with
        session := some ⟨second, v, SessionInfo.ofNegotiated request n⟩ })

/-- A client that has made a session and goes on with it is opening. -/
theorem Establishing.opening {ctx : Context} {p : Pending} {es es' : List Event}
    {r : Except ConnectionError Unit × Client} (h : Establishing c p es' r)
    (hp : p.verifier = .fresh c.endpoint.remoteName ctx.config.policy)
    (hes : ∀ ev ∈ es, ev.op.IsSetUp) : Opening c ctx (es ++ es') r := by
  obtain ⟨request, verifier⟩ := p
  obtain rfl : verifier = .fresh c.endpoint.remoteName ctx.config.policy := hp
  cases h with
  | unreached h => exact .unreached hes h
  | undoubled h =>
    rw [← List.append_assoc]
    exact .undoubled hes h
  | refused h ha =>
    rw [← List.append_assoc]
    exact .refused hes h ha
  | secured h ha =>
    rw [← List.append_assoc]
    exact .secured hes h ha

theorem Course.opening {ctx : Context} {es : List Event}
    {r : Except ConnectionError Unit × Client} (h : Course c ctx es r) : Opening c ctx es r := by
  cases h with
  | misnamed => exact .unmade (fun _ hev => absurd hev List.not_mem_nil) trivial
  | unprepared _ hes => exact .unmade hes.isSetUp (Pending.isOfSetUp_refusal _ _ _)
  | prepared _ hes h => exact h.opening rfl hes.isSetUp

/-- **Everything that opening a client over TLS may do.** -/
theorem emits_connect {ctx : Context} (htls : c.endpoint.tls = true) (hctx : c.context = some ctx)
    (hsession : c.session = none) (hstream : c.transport.stream = none) (msg : String) :
    Emits E (c.connect E msg) (Opening c ctx) :=
  (emits_course htls hctx hsession hstream msg).mono fun _ _ h => h.opening

/-- Opening a client sets up, connects, shakes hands and gives up, and does nothing else. -/
theorem Opening.isOpening {ctx : Context} {es : List Event}
    {r : Except ConnectionError Unit × Client} (h : Opening c ctx es r) :
    ∀ ev ∈ es, ev.op.IsOpening := by
  have hsetUp {es : List Event} (hes : ∀ ev ∈ es, ev.op.IsSetUp) : ∀ ev ∈ es, ev.op.IsOpening :=
    fun ev hev => (hes ev hev).isOpening
  have hreached {es : List Event} {o : Except TransportError Socket}
      (h : Transport.Reached (c.carriedBy none).transport es o) : ∀ ev ∈ es, ev.op.IsOpening :=
    fun ev hev => (h.isConnecting ev hev).isOpening
  cases h with
  | unmade hes => exact hsetUp hes
  | unreached hes h => exact List.forall_mem_append.mpr ⟨hsetUp hes, hreached h⟩
  | undoubled hes h =>
    simp only [List.forall_mem_append, List.forall_mem_cons]
    exact ⟨⟨hsetUp hes, hreached h⟩, trivial, trivial, fun _ hev => absurd hev List.not_mem_nil⟩
  | refused hes h ha =>
    simp only [List.forall_mem_append, List.forall_mem_cons]
    exact ⟨⟨hsetUp hes, hreached h⟩, trivial, ha.isOpening, trivial,
      fun _ hev => absurd hev List.not_mem_nil⟩
  | secured hes h ha =>
    simp only [List.forall_mem_append, List.forall_mem_cons]
    exact ⟨⟨hsetUp hes, hreached h⟩, trivial, ha.isOpening⟩

end Client

end SecureStream
