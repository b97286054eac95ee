import SecureStream.Peer.Loopback
import SecureStream.Proofs.Soundness
import SecureStream.Proofs.Turns

/-!
# Clients that share a context

Several clients may be made with one context, and be asked in any order. Each of them gives the same
answers and logs the same lines as if it were alone with a context of its own, if only its peer does
the same.

* `turnsOf_alone`: a client that is alone does the same where it gets the same answers;
* `Heard`, `Faithful`: what is asked of the TLS library follows from the client's endpoint,
  the configuration and the bundle, and from nothing else;
* **`turns_isolated`**: both, for clients that share a context.
-/

namespace SecureStream

variable {σ σ' κ : Type} {E : Environment σ} {E' : Environment σ'}

/-! ## A client alone -/

/-- A client that is asked once does the same where it gets the same answers. -/
theorem Client.turn_again (c : Client) (call : Call) (w : World σ) {w' : World σ'}
    (h : E'.Follows w'.state (c.turn E call w).1.exchange.events) :
    (c.turn E' call w').1 = (c.turn E call w).1 ∧
      (c.turn E' call w').2.state = E'.after w'.state (c.turn E call w).1.exchange.events := by
  obtain ⟨es, lines, hgains, hagain⟩ := c.repeats_answer E E' call w
  have hturn : (c.turn E call w).1 =
      ⟨⟨call, (c.answer E call w).1.1, es⟩, lines, (c.answer E call w).1.2⟩ := by
    rw [← hgains.since_eq, ← hgains.loggedSince_eq]
    rfl
  rw [hturn] at h ⊢
  obtain ⟨hresult, hstate, hgains'⟩ := hagain w' h
  refine ⟨?_, hstate⟩
  rw [← hresult, ← hgains'.since_eq, ← hgains'.loggedSince_eq]
  rfl

section

variable [DecidableEq κ] {k : κ}

/-- **A client that is alone does the same where it gets the same answers.** -/
theorem turnsOf_alone (calls : List (κ × Call)) {clients clients' : κ → Client}
    (hk : clients' k = clients k) (w : World σ) {w' : World σ'}
    (h : E'.Follows w'.state
      ((turnsOf k (turns E clients calls w).1).flatMap fun turn => turn.exchange.events)) :
    turnsOf k (turns E' clients' (calls.filter fun x => x.1 = k) w').1 =
      turnsOf k (turns E clients calls w).1 := by
  induction calls generalizing clients clients' w w' with
  | nil => rfl
  | cons x calls ih =>
    obtain ⟨j, call⟩ := x
    rw [turns_cons] at h ⊢
    by_cases hj : j = k
    · subst hj
      rw [turnsOf_cons_self, List.flatMap_cons, Environment.follows_append] at h
      obtain ⟨hturn, hstate⟩ := (clients j).turn_again call w h.1
      rw [List.filter_cons_of_pos (by simp), turns_cons, hk, hturn, turnsOf_cons_self,
        turnsOf_cons_self, ih ?_ _ ?_]
      · rw [Function.update_self, Function.update_self]
      · rw [hstate]
        exact h.2
    · rw [turnsOf_cons_of_ne hj] at h ⊢
      rw [List.filter_cons_of_neg (by simp [hj])]
      refine ih ?_ _ h
      rw [hk, Function.update_of_ne (Ne.symm hj)]

end

/-! ## What is asked of the TLS library -/

/-- Each attempt at a handshake is made with the verifier as the attempts before have left it. -/
def Heard (v : Verifier) : List Event → Prop
  | [] => True
  | ev :: es =>
    (∀ s request u a, ev = ⟨.handshake s request u, a⟩ → u = v) ∧ Heard (v.observe ev.calls).2 es

namespace Heard

variable {v : Verifier} {es es' : List Event}

theorem append_left (h : ∀ ev ∈ es, ev.isHandshake = false) (h' : Heard v es') :
    Heard v (es ++ es') := by
  induction es with
  | nil => exact h'
  | cons ev es ih =>
    obtain ⟨hev, hes⟩ := List.forall_mem_cons.mp h
    rw [List.cons_append, Heard, Event.calls_of_not_isHandshake hev]
    refine ⟨?_, ih hes⟩
    rintro s request u a rfl
    exact nomatch hev

theorem of_not_isHandshake (h : ∀ ev ∈ es, ev.isHandshake = false) : Heard v es := by
  rw [← List.append_nil es]
  exact append_left h trivial

theorem append_right (h : Heard v es) (h' : ∀ ev ∈ es', ev.isHandshake = false) :
    Heard v (es ++ es') := by
  induction es generalizing v with
  | nil => exact of_not_isHandshake h'
  | cons ev es ih => exact ⟨h.1, ih h.2⟩

end Heard

theorem Pending.Attempts.heard {s : Socket} {request : Tls.Request} {v v' : Verifier}
    {es : List Event} {o : Except Tls.Failure Tls.Negotiated} (h : Attempts s request v es v' o) :
    Heard v es := by
  have hfirst (v : Verifier) (a : Tls.Attempt) : ∀ s' request' u b,
      (⟨.handshake s request v, a⟩ : Event) = ⟨.handshake s' request' u, b⟩ → u = v := by
    intro s' request' u b heq
    cases heq
    rfl
  induction h with
  | decided => exact ⟨hfirst _ _, trivial⟩
  | interrupted _ _ ih => exact ⟨hfirst _ _, ih⟩

/-- In some events, what is asked of the TLS library is what the endpoint, the configuration and the
trust anchors say, and the verifier has seen nothing before the first handshake. -/
structure Faithful (endpoint : Endpoint) (config : Config) (trust : TrustStore) (es : List Event) :
    Prop where
  steps : ∀ ev ∈ es, ev.op.IsSetUp →
    ev.op ∈ Pending.steps (.loaded config trust) endpoint.remoteName endpoint.priority
  settings : ∀ s request v a, ⟨.handshake s request v, a⟩ ∈ es → request.context =
    ⟨endpoint.priority.getD config.priority, config.minVersion, trust.anchors, .peer, false⟩
  heard : Heard (.fresh endpoint.remoteName config.policy) es

namespace Client

variable {c : Client} {ctx : Context} {p : Pending} {es : List Event}
  {r : Except ConnectionError Unit × Client}

theorem Establishing.heard (h : Establishing c p es r) : Heard p.verifier es := by
  cases h with
  | unreached h => exact .of_not_isHandshake h.not_isHandshake
  | undoubled h =>
    exact .append_left h.not_isHandshake (.of_not_isHandshake (by simp [Event.isHandshake]))
  | refused h ha =>
    refine .append_left h.not_isHandshake ?_
    exact .append_left (List.forall_mem_singleton.mpr rfl)
      (ha.heard.append_right (List.forall_mem_singleton.mpr rfl))
  | secured h ha =>
    refine .append_left h.not_isHandshake ?_
    exact .append_left (List.forall_mem_singleton.mpr rfl) ha.heard

end Client

namespace Faithful

variable {endpoint : Endpoint} {config : Config} {trust : TrustStore} {es : List Event}

/-- Nothing is asked of the TLS library. -/
theorem of_silent {p : Op → Prop} (hsetUp : ∀ step, ¬ p (.setUp step))
    (hset : ∀ setting, ¬ p (.set setting))
    (hhandshake : ∀ s request v, ¬ p (.handshake s request v)) (hes : ∀ ev ∈ es, p ev.op) :
    Faithful endpoint config trust es where
  steps ev hev hop := by
    obtain ⟨op, a⟩ := ev
    cases op with
    | setUp step => exact absurd (hes _ hev) (hsetUp step)
    | set setting => exact absurd (hes _ hev) (hset setting)
    | _ => exact absurd hop id
  settings s request v _ hev := absurd (hes _ hev) (hhandshake s request v)
  heard := .of_not_isHandshake (not_isHandshake_of hhandshake hes)

theorem nil : Faithful endpoint config trust [] :=
  of_silent (p := fun _ => False) (fun _ h => h) (fun _ h => h) (fun _ _ _ h => h) fun _ hev =>
    absurd hev List.not_mem_nil

theorem of_setUps {refusal : Option (Tls.SetUp × LibraryErrors)}
    (hes : SetUps (Pending.steps (.loaded config trust) endpoint.remoteName endpoint.priority) es
      refusal) : Faithful endpoint config trust es where
  steps ev hev _ := hes.op_mem ev hev
  settings _ _ _ _ hev := nomatch not_isHandshake_of_isSetUp hes.isSetUp _ hev
  heard := .of_not_isHandshake (not_isHandshake_of_isSetUp hes.isSetUp)

end Faithful

namespace Client

variable {c : Client} {config : Config} {trust : TrustStore} {es : List Event}

theorem Course.faithful {r : Except ConnectionError Unit × Client}
    (h : Course c (.loaded config trust) es r) : Faithful c.endpoint config trust es := by
  have hsteps : ∀ ev ∈ es, ev.op.IsSetUp → ev.op ∈
      Pending.steps (.loaded config trust) c.endpoint.remoteName c.endpoint.priority :=
    fun _ hev => h.op_mem hev
  cases h with
  | misnamed => exact .nil
  | unprepared _ hes => exact .of_setUps hes
  | @prepared es es' r _ hes h =>
    have hsilent := not_isHandshake_of_isSetUp hes.isSetUp
    refine ⟨hsteps, fun s request v a hev => ?_, ?_⟩
    · rcases List.mem_append.mp hev with hev | hev
      · exact nomatch hsilent _ hev
      · have hrequest : request = _ := h.asks _ hev
        rw [hrequest, ← Context.libraryFor_loaded]
        exact Pending.context_requestFor _ _
    · exact .append_left hsilent h.heard

theorem Move.faithful {call : Call} {r : call.Reply × Client} (h : Move c call es r)
    (hctx : c.context = some (.loaded config trust)) : Faithful c.endpoint config trust es := by
  cases h with
  | opening _ hctx' _ _ h =>
    rw [hctx] at hctx'
    cases hctx'
    exact h.faithful
  | connecting _ _ h =>
    exact .of_silent (p := Op.IsConnecting) (fun _ h => h) (fun _ h => h) (fun _ _ _ h => h)
      h.isConnecting
  | @records _ s _ _ _ _ hes =>
    exact .of_silent (p := Op.IsRecord s.socket) (fun _ h => h) (fun _ h => h) (fun _ _ _ h => h)
      hes
  | raw _ _ _ hes =>
    exact .of_silent (p := fun op => op.isRaw = true) (fun _ h => nomatch h) (fun _ h => nomatch h)
      (fun _ _ _ h => nomatch h) hes
  | closeSession | closeTransport =>
    exact .of_silent (p := fun op => ¬ op.IsSetUp ∧ ∀ s request v, op ≠ .handshake s request v)
      (fun _ h => h.1 trivial) (fun _ h => h.1 trivial) (fun _ _ _ h => h.2 _ _ _ rfl)
      (by simp [Op.IsSetUp])
  | _ => exact .nil

end Client

/-! ## Clients that share a context -/

section

variable [DecidableEq κ] {endpoints : κ → Endpoint} {clients clients' : κ → Client} {k : κ}

theorem conversation_faithful {endpoint : Endpoint} {config : Config} {trust : TrustStore}
    (hnew : Client.new endpoint (some (.loaded config trust)) = .ok (clients k))
    (calls : List (κ × Call)) (w : World σ) :
    ∀ x ∈ (conversation E clients calls w k).exchanges,
      Faithful endpoint config trust x.events := by
  refine conversation_induction_of_new (E := E)
    (P := fun t => ∀ x ∈ t.exchanges, Faithful endpoint config trust x.events) hnew
    (fun _ hx => absurd hx List.not_mem_nil)
    (fun t call es r hendpoint hcontext hfaithful hmove => ?_) calls w
  have hlast := hmove.faithful hcontext
  rw [hendpoint] at hlast
  exact List.forall_mem_append.mpr ⟨hfaithful, List.forall_mem_singleton.mpr hlast⟩

/-- A client is not disturbed by others that share its context. All that passes with it is as if it
were alone: replies, events, log lines, and what it tells of its session after each call. What is
asked of the TLS library follows from its endpoint, the configuration and the bundle. -/
structure Isolated (config : Config) (bundle : List UInt8) (endpoint : Endpoint)
    (shared alone : List Turn) : Prop where
  turns_eq : alone = shared
  faithful : ∃ trust, TrustStore.ofFile config.caFile (.ok bundle) = .ok trust ∧
    ∀ turn ∈ shared, Faithful endpoint config trust turn.exchange.events

/-- **Clients that share a context do not disturb each other**, whatever is asked of them and in
whatever order: each has the turns that it has alone, with a context of its own that was made of the
same configuration and bundle, if only its operations are answered in the same way. -/
theorem turns_isolated {config : Config} {bundle : List UInt8} {ctx ctx' : Context}
    (hctx : ctx.LoadedFrom E config bundle) (hctx' : ctx'.LoadedFrom E' config bundle)
    (hnew : ∀ j, Client.new (endpoints j) (some ctx) = .ok (clients j))
    (hnew' : Client.new (endpoints k) (some ctx') = .ok (clients' k))
    (calls : List (κ × Call)) (w : World σ) (w' : World σ')
    (hpeer : E'.Follows w'.state
      ((turnsOf k (turns E clients calls w).1).flatMap fun turn => turn.exchange.events)) :
    Isolated config bundle (endpoints k) (turnsOf k (turns E clients calls w).1)
      (turnsOf k (turns E' clients' (calls.filter fun x => x.1 = k) w').1) := by
  obtain ⟨trust, htrust, rfl⟩ := hctx.eq_loaded
  obtain ⟨trust', htrust', rfl⟩ := hctx'.eq_loaded
  obtain rfl : trust = trust' := Except.ok.inj (htrust.symm.trans htrust')
  have hk : clients' k = clients k := Except.ok.inj (hnew'.symm.trans (hnew k))
  refine ⟨turnsOf_alone calls hk w hpeer, trust, htrust, fun turn hturn => ?_⟩
  refine conversation_faithful (E := E) (hnew k) calls w _ ?_
  rw [conversation_exchanges]
  exact List.mem_map_of_mem hturn

end

/-- A context may be made again where the same answers are given. -/
theorem Context.LoadedFrom.again {config : Config} {bundle : List UInt8} {ctx : Context}
    (h : ctx.LoadedFrom E config bundle) : ctx.LoadedFrom Environment.replay config bundle := by
  obtain ⟨w, w', hrun, hmem⟩ := h
  have hrepeats : Repeats Environment.replay (init E config).run
      (init Environment.replay config).run := (repeats_comparesAll E _).init config
  obtain ⟨es, lines, hgains, hagain⟩ := hrepeats w
  have hreplay := hagain (.start es) (Environment.follows_replay es)
  rw [hrun] at hgains hreplay
  rw [hgains.since_eq] at hmem
  refine ⟨.start es, _, Prod.ext hreplay.result rfl, ?_⟩
  rw [hreplay.gains.since_eq]
  exact hmem

namespace Peer.Loopback

/-- The endpoints of two clients. One of them has a priority string that names no cipher. -/
def endpoints : Bool → Endpoint
  | true => endpoint
  | false => endpoint.set (.priority "NONSENSE")

/-- Two clients that share a context. -/
def sharers (k : Bool) : Client := ⟨endpoints k, some made, (endpoints k).transport, none⟩

/-- Calls of both clients. -/
def sharedCalls : List (Bool × Call) :=
  [(false, .connect "first"), (true, .connect "second"), (false, .connect "third"), (true, .close)]

/-- The turns of the two clients. -/
def sharedTurns : List (Bool × Turn) :=
  (turns Network.environment sharers sharedCalls (.start (bundled []))).1

end Peer.Loopback

theorem turns_isolated_loopback : ∃ bundle,
    Peer.Loopback.made.LoadedFrom Peer.Network.environment Peer.Loopback.config bundle ∧
    Peer.Loopback.made.LoadedFrom Environment.replay Peer.Loopback.config bundle ∧
    Isolated Peer.Loopback.config bundle Peer.Loopback.endpoint
      (turnsOf true Peer.Loopback.sharedTurns)
      (turnsOf true (turns Environment.replay Peer.Loopback.sharers
        (Peer.Loopback.sharedCalls.filter fun x => x.1 = true) (.start
          ((turnsOf true Peer.Loopback.sharedTurns).flatMap fun turn => turn.exchange.events))).1) ∧
    Peer.Loopback.sharedTurns.map (fun x => (x.1, x.2.client.certStatus)) =
      [(false, none), (true, some ∅), (false, none), (true, none)] := by
  have hinit : (Context.init Peer.Network.environment Peer.Loopback.config).run
      (.start (Peer.Loopback.bundled [])) =
    (.ok Peer.Loopback.made, Peer.Loopback.initialised.2) := Peer.Loopback.initialised_eq
  obtain ⟨bundle, hloaded⟩ := Context.exists_loadedFrom hinit
  have hnew (j : Bool) : Client.new (Peer.Loopback.endpoints j) (some Peer.Loopback.made) =
      .ok (Peer.Loopback.sharers j) := by
    cases j <;> rfl
  have hpeer := Environment.follows_replay
    ((turnsOf true Peer.Loopback.sharedTurns).flatMap fun turn => turn.exchange.events)
  have hisolated := turns_isolated hloaded hloaded.again hnew (hnew true)
    Peer.Loopback.sharedCalls (.start (Peer.Loopback.bundled [])) (.start _) hpeer
  exact ⟨bundle, hloaded, hloaded.again, hisolated, by decide +kernel⟩

end SecureStream
