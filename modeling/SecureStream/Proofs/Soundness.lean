import SecureStream.Proofs.Lifecycle
import SecureStream.Proofs.Verdicts

/-!
# Soundness of the policy

A session knows exactly what the TLS library has found wrong in the handshake that made it, and its
policy has nothing against that.

* `callbacks`: the calls that were made of the verifier;
* `Pending.Attempts.verifier_eq`, `Pending.Attempts.not_meets`: what all attempts at a handshake
  leave the verifier with;
* `Exchange.Judged`: what one exchange says about the handshake in it;
* `LastFound`: what was found in the handshake that made the session;
* **`conversation_sound`**: both, after any calls of any clients.
-/

namespace SecureStream

variable {σ : Type} {E : Environment σ}

/-! ## Calls of the verifier -/

/-- The calls of the verifier that an event is about. -/
def Event.calls : Event → List Callback
  | ⟨.handshake _ _ _, a⟩ => a.calls
  | _ => []

/-- The event is an attempt at a handshake. -/
def Event.isHandshake : Event → Bool
  | ⟨.handshake _ _ _, _⟩ => true
  | _ => false

/-- The calls that were made of the verifier, in order. -/
def callbacks (es : List Event) : List Callback := es.flatMap Event.calls

theorem Event.calls_of_not_isHandshake {ev : Event} (h : ev.isHandshake = false) :
    ev.calls = [] := by
  obtain ⟨op, a⟩ := ev
  cases op with
  | handshake => exact nomatch h
  | _ => rfl

theorem callbacks_of_not_isHandshake {es : List Event} (h : ∀ ev ∈ es, ev.isHandshake = false) :
    callbacks es = [] :=
  List.flatMap_eq_nil_iff.mpr fun ev hev => ev.calls_of_not_isHandshake (h ev hev)

/-- Operations of a kind that no handshake is of are no handshakes. -/
theorem not_isHandshake_of {p : Op → Prop} (hp : ∀ s request v, ¬ p (.handshake s request v))
    {es : List Event} (h : ∀ ev ∈ es, p ev.op) : ∀ ev ∈ es, ev.isHandshake = false := by
  intro ev hev
  obtain ⟨op, a⟩ := ev
  have hop := h _ hev
  cases op with
  | handshake s request v => exact absurd hop (hp s request v)
  | _ => rfl

theorem not_isHandshake_of_isSetUp {es : List Event} (h : ∀ ev ∈ es, ev.op.IsSetUp) :
    ∀ ev ∈ es, ev.isHandshake = false :=
  not_isHandshake_of (p := Op.IsSetUp) (fun _ _ _ h => h) h

theorem Transport.Reached.not_isHandshake {t : Transport} {es : List Event}
    {o : Except TransportError Socket} (h : t.Reached es o) : ∀ ev ∈ es, ev.isHandshake = false :=
  not_isHandshake_of (p := Op.IsConnecting) (fun _ _ _ h => h) h.isConnecting

/-! ## All attempts at a handshake -/

/-- An attempt that has succeeded, or was interrupted, was not refused. -/
theorem Tls.Attempt.Heeds.accepted {a : Tls.Attempt} {v : Verifier} (h : a.Heeds v)
    (ha : ∀ e, a.outcome = .error e → e.isTransient = true) : (v.heed a.calls).2 = true := by
  by_contra hnot
  obtain ⟨e, he, hdecided⟩ := h.refused (eq_false_of_ne_true hnot)
  rw [ha e he] at hdecided
  exact nomatch hdecided

theorem Environment.Heeds.of_gives {s : Socket} {request : Tls.Request} {v : Verifier}
    {a : Tls.Attempt} (hE : E.Heeds) (h : E.Gives ⟨.handshake s request v, a⟩) : a.Heeds v := by
  obtain ⟨state, h⟩ := h
  have ha : (E.answer (.handshake s request v) state).1 = a := h
  rw [← ha]
  exact hE s request v state

namespace Pending

variable {s : Socket} {request : Tls.Request} {v v' : Verifier} {es : List Event}
  {o : Except Tls.Failure Tls.Negotiated}

/-- After all attempts the verifier knows what was found in them, and nothing else has changed. -/
theorem Attempts.verifier_eq (h : Attempts s request v es v' o) :
    v' = { v with status := v.status ∪ found (callbacks es) } := by
  induction h with
  | @decided v a ha =>
    rw [Verifier.observe_eq, callbacks, List.flatMap_singleton]
    rfl
  | @interrupted v v' es o a ha h ih =>
    rw [ih, Verifier.observe_eq]
    simp [callbacks, Event.calls, found_append, CertStatus.union_assoc]

/-- If a handshake succeeds, the policy has nothing against what was found in it. -/
theorem Attempts.not_meets (h : Attempts s request v es v' o) (hE : E.Heeds)
    (hgives : ∀ ev ∈ es, E.Gives ev) (ho : ∀ e, o = .error e → e.isTransient = true) :
    (found (callbacks es)).meets v.policy.fatal = false := by
  induction h with
  | @decided v a ha =>
    have hheeds := hE.of_gives (hgives _ (List.mem_singleton.mpr rfl))
    rw [callbacks, List.flatMap_singleton]
    exact Verifier.not_meets_of_heed (hheeds.accepted ho)
  | @interrupted v v' es o a ha h ih =>
    -- An attempt that was refused has failed for good, so one that was interrupted was not refused.
    obtain ⟨hfirst, hrest⟩ := List.forall_mem_cons.mp hgives
    have haccepted : (v.heed a.calls).2 = true :=
      (hE.of_gives hfirst).accepted fun e he => by simpa [isInterrupted, he] using ha
    have hes := ih hrest ho
    rw [Verifier.observe_eq] at hes
    rw [callbacks, List.flatMap_cons, found_append, CertStatus.union_meets]
    rw [Bool.or_eq_false_iff]
    exact ⟨Verifier.not_meets_of_heed haccepted, hes⟩

end Pending

/-! ## One exchange -/

/-- What an exchange says about the handshake in it. If the call has succeeded, the policy has
nothing against what was found. If there was a handshake and the call has failed, the error says so,
names the server that was asked for, and carries exactly what was found. -/
structure Exchange.Judged (endpoint : Endpoint) (policy : Policy) (x : Exchange) : Prop where
  opened : x.opens = true → (found (callbacks x.events)).meets policy.fatal = false
  shaken : (∃ ev ∈ x.events, ev.isHandshake = true) → x.opens = true ∨ ∃ msg reason,
    x = ⟨.connect msg,
      .error (.handshake endpoint.remoteName reason (found (callbacks x.events))), x.events⟩
  status : ∀ msg name reason status es,
    x = ⟨.connect msg, .error (.handshake name reason status), es⟩ → status = found (callbacks es)

/-- An exchange without a handshake says nothing about one. -/
theorem Exchange.Judged.of_not_isHandshake {endpoint : Endpoint} {policy : Policy} {x : Exchange}
    (h : ∀ ev ∈ x.events, ev.isHandshake = false)
    (hreply : ∀ msg name reason status es,
      x ≠ ⟨.connect msg, .error (.handshake name reason status), es⟩) :
    x.Judged endpoint policy := by
  refine ⟨fun _ => ?_, fun ⟨ev, hev, hshaken⟩ => ?_,
    fun _ _ _ _ _ hx => absurd hx (hreply _ _ _ _ _)⟩
  · rw [callbacks_of_not_isHandshake h]
    simp [CertStatus.meets]
  · rw [h ev hev] at hshaken
    cases hshaken

namespace Client

variable {c : Client} {ctx : Context} {es es' : List Event}

/-- Before the handshake, no calls are made of the verifier. -/
theorem callbacks_append {t : Transport} {o : Except TransportError Socket}
    (hes : ∀ ev ∈ es, ev.op.IsSetUp) (h : t.Reached es' o) (rest : List Event) :
    callbacks (es ++ es' ++ rest) = callbacks rest := by
  rw [callbacks, List.flatMap_append, List.flatMap_append]
  change callbacks es ++ callbacks es' ++ callbacks rest = _
  rw [callbacks_of_not_isHandshake (not_isHandshake_of_isSetUp hes),
    callbacks_of_not_isHandshake h.not_isHandshake]
  rfl

theorem Opening.judged {r : Except ConnectionError Unit × Client} (h : Opening c ctx es r)
    (hE : E.Heeds) (hgives : ∀ ev ∈ es, E.Gives ev) (msg : String) :
    Exchange.Judged c.endpoint ctx.config.policy ⟨.connect msg, r.1, es⟩ := by
  cases h with
  | unmade hes he =>
    refine .of_not_isHandshake (not_isHandshake_of_isSetUp hes) ?_
    rintro _ _ _ _ _ heq
    cases heq
    exact he
  | unreached hes h =>
    refine .of_not_isHandshake ?_ (fun _ _ _ _ _ heq => by cases heq)
    exact List.forall_mem_append.mpr ⟨not_isHandshake_of_isSetUp hes, h.not_isHandshake⟩
  | undoubled hes h =>
    refine .of_not_isHandshake ?_ (fun _ _ _ _ _ heq => by cases heq)
    refine List.forall_mem_append.mpr
      ⟨List.forall_mem_append.mpr ⟨not_isHandshake_of_isSetUp hes, h.not_isHandshake⟩, ?_⟩
    simp [Event.isHandshake]
  | @refused es es' s second request es'' v e a hes h ha =>
    have hcalls : callbacks (es ++ es' ++ ⟨.duplicate s, .ok second⟩ ::
        (es'' ++ [⟨.shutdown s, a⟩])) = callbacks es'' := by
      rw [callbacks_append hes h]
      simp [callbacks, Event.calls]
    have hstatus : v.status = found (callbacks es'') := by
      rw [ha.verifier_eq]
      simp [Verifier.fresh]
    refine ⟨fun h => (by cases h), fun _ => .inr ⟨msg, e.message, ?_⟩, ?_⟩
    · rw [hcalls, hstatus]
    · rintro _ _ _ _ _ heq
      cases heq
      rw [hcalls, hstatus]
  | @secured es es' s second request es'' v n hes h ha =>
    refine ⟨fun _ => ?_, fun _ => .inl rfl, fun _ _ _ _ _ heq => by cases heq⟩
    have hgives'' : ∀ ev ∈ es'', E.Gives ev := fun ev hev =>
      hgives ev (List.mem_append_right _ (List.mem_cons_of_mem _ hev))
    dsimp only
    rw [callbacks_append hes h]
    exact ha.not_meets hE hgives'' fun _ h => by cases h

/-- The session that opening a client makes knows what was found, and nothing else. -/
theorem Opening.status_eq {r : Except ConnectionError Unit × Client} (h : Opening c ctx es r)
    (hsession : c.session = none) {s : Session} (hs : r.2.session = some s) :
    r.1 = .ok () ∧ s.status = found (callbacks es) := by
  cases h with
  | secured hes h ha =>
    refine ⟨rfl, ?_⟩
    rw [callbacks_append hes h, ← Option.some.inj hs, Session.status, ha.verifier_eq]
    simp [Verifier.fresh, callbacks, Event.calls]
  | unmade => rw [hsession] at hs; cases hs
  | _ => rw [carriedBy, hsession] at hs; cases hs

theorem Move.judged {call : Call} {r : call.Reply × Client} (h : Move c call es r)
    (hctx : c.context = some ctx) (hE : E.Heeds) (hgives : ∀ ev ∈ es, E.Gives ev) :
    Exchange.Judged c.endpoint ctx.config.policy ⟨call, r.1, es⟩ := by
  have hnil : ∀ ev ∈ ([] : List Event), ev.isHandshake = false :=
    fun _ hev => absurd hev List.not_mem_nil
  cases h with
  | opening _ hctx' _ _ h =>
    rw [hctx] at hctx'
    cases hctx'
    exact h.opening.judged hE hgives _
  | connecting _ _ h =>
    refine .of_not_isHandshake h.not_isHandshake fun _ _ _ _ _ heq => ?_
    cases h <;> cases heq
  | records htransfer _ hes =>
    refine .of_not_isHandshake (not_isHandshake_of (fun _ _ _ h => h) hes) fun _ _ _ _ _ heq => ?_
    cases heq
    exact nomatch htransfer
  | raw htransfer _ _ hes =>
    refine .of_not_isHandshake (not_isHandshake_of (p := fun op => op.isRaw = true)
      (fun _ _ _ h => nomatch h) hes) fun _ _ _ _ _ heq => ?_
    cases heq
    exact nomatch htransfer
  | closeSession | closeTransport =>
    exact .of_not_isHandshake (by simp [Event.isHandshake]) fun _ _ _ _ _ heq => by cases heq
  | _ => exact .of_not_isHandshake hnil fun _ _ _ _ _ heq => by cases heq

/-- The session that a client has after a call is made by the call, and knows what was found then,
or it is the one before. -/
theorem Move.status_eq {call : Call} {r : call.Reply × Client} (h : Move c call es r)
    (hc : c.Coherent) {s : Session} (hs : r.2.session = some s) :
    ((Exchange.mk call r.1 es).opens = true ∧ s.status = found (callbacks es)) ∨
      (c.session = some s ∧ call ≠ .close ∧ (Exchange.mk call r.1 es).opens = false) := by
  cases h with
  | opening _ _ hsession _ h =>
    obtain ⟨hreply, hstatus⟩ := h.opening.status_eq hsession hs
    rw [hreply]
    exact .inl ⟨rfl, hstatus⟩
  | connecting hplain =>
    have hs' : c.session = some s := hs
    rw [hc.session_eq_none hplain] at hs'
    exact nomatch hs'
  | openAlready | unsent | unreceived => exact .inr ⟨hs, nofun, rfl⟩
  | records htransfer | raw htransfer =>
    cases call with
    | send | recv => exact .inr ⟨hs, nofun, rfl⟩
    | _ => exact nomatch htransfer
  | closeSession | closeTransport => exact nomatch hs
  | closeNothing hsession => rw [hsession] at hs; exact nomatch hs

end Client

/-! ## All calls -/

/-- The status is what was found in the last exchange that opened the client, which was not closed
since. -/
def LastFound (exchanges : List Exchange) (status : CertStatus) : Prop :=
  ∃ before x after, exchanges = before ++ x :: after ∧ x.opens = true ∧
    (∀ y ∈ after, y.call ≠ .close ∧ y.opens = false) ∧ status = found (callbacks x.events)

namespace LastFound

variable {exchanges : List Exchange} {status : CertStatus} {x : Exchange}

theorem of_opens (h : x.opens = true) :
    LastFound (exchanges ++ [x]) (found (callbacks x.events)) :=
  ⟨exchanges, x, [], rfl, h, fun _ hmem => absurd hmem List.not_mem_nil, rfl⟩

theorem concat (h : LastFound exchanges status) (hclose : x.call ≠ .close)
    (hopens : x.opens = false) : LastFound (exchanges ++ [x]) status := by
  obtain ⟨before, y, after, rfl, hy, hafter, rfl⟩ := h
  refine ⟨before, y, after ++ [x], by rw [List.append_assoc, List.cons_append], hy, ?_, rfl⟩
  exact List.forall_mem_append.mpr ⟨hafter, List.forall_mem_singleton.mpr ⟨hclose, hopens⟩⟩

end LastFound

/-- What is known about handshakes, from the client and from what has been asked of it. -/
structure Sound (endpoint : Endpoint) (policy : Policy) (t : Conversation) : Prop where
  judged : ∀ x ∈ t.exchanges, x.Judged endpoint policy
  last : ∀ status, t.client.certStatus = some status → LastFound t.exchanges status
  fatal : ∀ status, t.client.certStatus = some status → status.meets policy.fatal = false
  strict : policy = .strict → ∀ status, t.client.certStatus = some status → status = ∅
  lenient : policy = .lenient → ∀ status, t.client.certStatus = some status →
    status ⊆ Policy.tolerated

section

variable {κ : Type} [DecidableEq κ] {clients : κ → Client} {k : κ}

/-- What is known of a client and its exchanges: what it was made for, what the exchanges say, and
what its session knows. -/
structure Informed (endpoint : Endpoint) (ctx : Context) (t : Conversation) : Prop where
  endpoint_eq : t.client.endpoint = endpoint
  context_eq : t.client.context = some ctx
  judged : ∀ x ∈ t.exchanges, x.Judged endpoint ctx.config.policy
  last : ∀ s, t.client.session = some s → LastFound t.exchanges s.status

theorem Informed.start {c : Client} {endpoint : Endpoint} {ctx : Context}
    (h : c.IsNew endpoint (some ctx)) : Informed endpoint ctx (.start c) := by
  refine ⟨h.endpoint_eq, h.context_eq, fun _ hmem => absurd hmem List.not_mem_nil, fun s hs => ?_⟩
  rw [Conversation.start, h.session_eq] at hs
  cases hs

theorem Informed.concat {t : Conversation} {endpoint : Endpoint} {ctx : Context} {call : Call}
    {es : List Event} {r : call.Reply × Client} (ht : Informed endpoint ctx t)
    (hc : t.client.Coherent) (hE : E.Heeds) (hmove : Client.Move t.client call es r)
    (hgives : ∀ ev ∈ es, E.Gives ev) :
    Informed endpoint ctx ⟨r.2, t.exchanges ++ [⟨call, r.1, es⟩]⟩ := by
  refine ⟨?_, ?_, ?_, fun s hs => ?_⟩
  · rw [hmove.endpoint_eq, ht.endpoint_eq]
  · rw [hmove.context_eq, ht.context_eq]
  · have hx := hmove.judged ht.context_eq hE hgives
    rw [ht.endpoint_eq] at hx
    exact List.forall_mem_append.mpr ⟨ht.judged, List.forall_mem_singleton.mpr hx⟩
  · rcases hmove.status_eq hc hs with ⟨hopens, hstatus⟩ | ⟨hs, hclose, hopens⟩
    · rw [hstatus]
      exact .of_opens hopens
    · exact (ht.last s hs).concat hclose hopens

/-- **Whatever is asked of any clients and whatever happens, if only the TLS library heeds the
verifier: a session knows exactly what was found in the handshake that made it, and its policy has
nothing against that. If a handshake fails, the error carries exactly what was found in it.** -/
theorem conversation_sound {endpoint : Endpoint} {ctx : Context} (hE : E.Heeds)
    (hnew : Client.new endpoint (some ctx) = .ok (clients k)) (calls : List (κ × Call))
    (w : World σ) : Sound endpoint ctx.config.policy (conversation E clients calls w k) := by
  have hnew' := Client.isNew_of_new hnew
  have h : Informed endpoint ctx (conversation E clients calls w k) :=
    conversation_induction hnew'.coherent (.start hnew')
      (fun _ _ _ _ hc ht hmove hgives => ht.concat hc hE hmove hgives) calls w
  have hlast' : ∀ status, (conversation E clients calls w k).client.certStatus = some status →
      LastFound (conversation E clients calls w k).exchanges status := by
    intro status hstatus
    obtain ⟨s, hs, rfl⟩ := Option.map_eq_some_iff.mp hstatus
    exact h.last s hs
  refine ⟨h.judged, hlast', fun status hstatus => ?_, fun hpolicy status hstatus => ?_,
    fun hpolicy status hstatus => ?_⟩
  all_goals
    obtain ⟨before, x, after, hexchanges, hopens, -, rfl⟩ := hlast' status hstatus
    have hx := (h.judged x (by rw [hexchanges]; simp)).opened hopens
  · exact hx
  · rw [hpolicy] at hx
    exact Policy.eq_empty_of_strict hx
  · rw [hpolicy] at hx
    exact Policy.subset_of_lenient hx

theorem conversation_sound_loopback :
    Peer.Network.environment.Heeds ∧
    (Client.new Peer.Loopback.endpoint (some (Peer.Loopback.context .lenient)) =
      .ok (Peer.Loopback.clients .lenient true)) ∧
    Sound Peer.Loopback.endpoint .lenient
      (conversation Peer.Network.environment (Peer.Loopback.clients .lenient)
        [(true, .connect "first"), (false, .connect "second")]
        (.start (Peer.Loopback.expired [])) true) ∧
    (conversation Peer.Network.environment (Peer.Loopback.clients .lenient)
      [(true, .connect "first"), (false, .connect "second")]
      (.start (Peer.Loopback.expired [])) true).client.certStatus = some (.ofList [.expired]) :=
  have hnew := Peer.Loopback.new_eq .lenient true
  ⟨Peer.Network.heeds, hnew, conversation_sound Peer.Network.heeds hnew _ _, by decide +kernel⟩

end

end SecureStream
