import SecureStream.Peer.Loopback
import SecureStream.Proofs.Soundness
import SecureStream.Proofs.Stages

/-!
# Whom a session is for

Every session is for one name. The peer has to prove that it is what the name says, and the name is
that of the endpoint, wherever the connection goes.

* `Tls.Request.Expects`: what a name says about the peer, an address or a host;
* `Tls.Request.stored`: the settings of a session that some events have left in the TLS library;
* `Pending.BoundTo`, `Op.BoundTo`: a session that is for a name, and operations that are for no
  other session;
* `Pending.Created`, `Pending.created`: what making a session comes to;
* `Client.Move.boundTo`, `Conversation.BoundTo`: what clients make of their endpoint's name;
* **`sessions_bound`**: every session is bound to its name.
-/

namespace SecureStream

variable {σ : Type} {E : Environment σ}

/-! ## What the peer has to be -/

/-- What a name says about the peer. An address has to be among those of the peer, which is not
asked for it; anything else is what the peer is asked for, and has to be one of its host names. -/
inductive Tls.Request.Expects (request : Tls.Request) (name : String) : Prop
  | address (ip : IpAddress) : IpAddress.ofText? name = some ip → request.expectedIp = some ip →
    request.expectedHost = none → request.askedName = none → Expects request name
  | host : IpAddress.ofText? name = none → request.expectedIp = none →
    request.expectedHost = some name → request.askedName = some name → Expects request name

/-- The session is for a name: the peer has to prove who it is, and that it is what the name says.
The verifier knows the name and the policy. -/
structure Pending.BoundTo (p : Pending) (name : String) (policy : Policy) : Prop where
  verifyMode : p.request.verifyMode = .peer
  expects : p.request.Expects name
  serverName_eq : p.verifier.serverName = name
  policy_eq : p.verifier.policy = policy

/-- The operation does not set up or secure a session for anything but the name. -/
def Op.BoundTo (name : String) (policy : Policy) : Op → Prop
  | setUp (.askName n) | setUp (.expectHost n) => IpAddress.ofText? name = none ∧ n = name
  | setUp (.expectIp ip) => IpAddress.ofText? name = some ip
  | handshake _ request v => Pending.BoundTo ⟨request, v⟩ name policy
  | _ => True

namespace Tls.Request

/-- The settings of a session after a step that was accepted. The TLS library stores what it is
given. -/
def store (request : Tls.Request) : Op → Tls.Request
  | .setUp .newSession => Pending.unbound request.context
  | .setUp (.askName name) => { request with askedName := some name }
  | .setUp (.expectHost name) => { request with expectedHost := some name }
  | .setUp (.expectIp ip) => { request with expectedIp := some ip }
  | _ => request

/-- The settings that some events have left to a session. -/
def stored (context : Tls.Context) (es : List Event) : Tls.Request :=
  (acceptedSteps es).foldl store (Pending.unbound context)

end Tls.Request

/-! ## Making a session -/

/-- The TLS library does not ask for names of more than 255 bytes. -/
def Environment.LimitsNames (E : Environment σ) : Prop :=
  ∀ name state, 255 < name.utf8ByteSize →
    ∃ errors, (E.answer (.setUp (.askName name)) state).1 = .error errors

namespace Pending

theorem expects_requestFor (context : Tls.Context) (name : String) :
    (requestFor context name).Expects name := by
  unfold requestFor
  cases hname : IpAddress.ofText? name with
  | some ip => exact .address ip hname rfl rfl rfl
  | none => exact .host hname rfl rfl rfl

/-- What is only almost an address is a host. -/
example : ["[::1]", "127.0.0.01", "127.0.0.1.", "fe80::1%eth0", "0x7f.1"].all fun name =>
    (requestFor ⟨"", none, [], .peer, false⟩ name).expectedHost = some name := by
  decide +kernel

theorem verifyMode_requestFor (context : Tls.Context) (name : String) :
    (requestFor context name).verifyMode = .peer := by
  unfold requestFor
  cases IpAddress.ofText? name <;> rfl

theorem boundTo_made (ctx : Context) (name : String) (priority : Option String) :
    (made ctx name priority).BoundTo name ctx.config.policy :=
  ⟨verifyMode_requestFor _ _, expects_requestFor _ _, rfl, rfl⟩

theorem foldl_store_stepsFor (ctx : Context) (priority : Option String) (request : Tls.Request) :
    (ctx.stepsFor priority).foldl Tls.Request.store request = request := by
  unfold Context.stepsFor
  cases ctx.ownPriority priority with
  | none => rfl
  | some p =>
    unfold Context.steps
    cases ctx.config.minVersion <;> rfl

theorem foldl_store_identitySteps (context : Tls.Context) (name : String) :
    ((identitySteps name).map .setUp).foldl Tls.Request.store (unbound context) =
      requestFor context name := by
  unfold identitySteps requestFor
  cases IpAddress.ofText? name <;> rfl

/-- The steps of making a session leave its settings behind. -/
theorem foldl_store_steps (ctx : Context) (name : String) (priority : Option String)
    (context : Tls.Context) :
    (steps ctx name priority).foldl Tls.Request.store (unbound context) =
      requestFor context name := by
  rw [steps, List.foldl_append, foldl_store_stepsFor, List.foldl_cons]
  exact foldl_store_identitySteps context name

/-- What making a session of a context comes to, in some world. -/
structure Created (E : Environment σ) (ctx : Context) (name : String) (priority : Option String)
    (w : World σ) : Prop where
  bound : ∀ p, ((create E ctx name priority).run w).1 = .ok p → p.BoundTo name ctx.config.policy
  /-- The TLS library has stored the settings of the session. -/
  stored : ∀ p, ((create E ctx name priority).run w).1 = .ok p →
    Tls.Request.stored p.request.context (((create E ctx name priority).run w).2.since w) =
      p.request
  /-- Some names are for no session, and the TLS library is not tried. -/
  misnamed : name = "" ∨ '\x00' ∈ name.toList →
    ((create E ctx name priority).run w).2.since w = [] ∧
    ∃ reason, ((create E ctx name priority).run w).1 = .error (.serverName name reason)
  /-- The TLS library has refused the name. -/
  refused : ∀ step errors, step ∈ identitySteps name →
    ⟨.setUp step, .error errors⟩ ∈ ((create E ctx name priority).run w).2.since w →
    ((create E ctx name priority).run w).1 = .error (.serverName name errors.message)
  /-- The TLS library refuses the name at any time, and has refused nothing else. -/
  unwelcome : (∃ step ∈ identitySteps name, ∀ state, ∃ errors,
      (E.answer (.setUp step) state).1 = .error errors) →
    (∀ step, .setUp step ∈ settingSteps ctx priority → ∀ errors,
      ⟨.setUp step, .error errors⟩ ∉ ((create E ctx name priority).run w).2.since w) →
    ∃ reason, ((create E ctx name priority).run w).1 = .error (.serverName name reason)
  tooLong : E.LimitsNames → IpAddress.ofText? name = none → 255 < name.utf8ByteSize →
    (∀ step, .setUp step ∈ settingSteps ctx priority → ∀ errors,
      ⟨.setUp step, .error errors⟩ ∉ ((create E ctx name priority).run w).2.since w) →
    ∃ reason, ((create E ctx name priority).run w).1 = .error (.serverName name reason)

section

variable {ctx : Context} {name : String} {priority : Option String} {w : World σ}

theorem run_create_of_nameFault {reason : String} (hname : nameFault? name = some reason) :
    (create E ctx name priority).run w = (.error (.serverName name reason), w) := by
  rw [create_of_nameFault hname]
  rfl

/-- A name that the TLS library refuses is refused once it is reached. -/
theorem create_of_unwelcome {step : Tls.SetUp} (hstep : step ∈ identitySteps name)
    (hE : ∀ state, ∃ errors, (E.answer (.setUp step) state).1 = .error errors)
    (hsettings : ∀ step, .setUp step ∈ settingSteps ctx priority → ∀ errors,
      ⟨.setUp step, .error errors⟩ ∉ ((create E ctx name priority).run w).2.since w) :
    ∃ reason, ((create E ctx name priority).run w).1 = .error (.serverName name reason) := by
  cases hname : nameFault? name with
  | some reason =>
    rw [create_of_nameFault hname]
    exact ⟨reason, rfl⟩
  | none =>
    obtain ⟨hgives, refusal, hes, hr⟩ := (prepares_create (E := E) hname priority).since w
    have hmem : .setUp step ∈ steps ctx name priority := by
      rw [steps_eq]
      exact List.mem_append_right _ (Op.setUp_mem_map.mpr hstep)
    -- If nothing was refused, the step was made after all; if something was, it is about the name.
    cases refusal with
    | none =>
      rw [← hes.accepted_eq] at hmem
      obtain ⟨state, hok⟩ := hgives _ (mem_acceptedSteps hmem)
      obtain ⟨errors, herror⟩ := hE state
      exact nomatch herror.symm.trans hok
    | some refusal =>
      obtain ⟨step', errors⟩ := refusal
      have hstep' := hes.refused_mem
      rw [steps_eq] at hstep'
      rcases List.mem_append.mp hstep' with hstep' | hstep'
      · exact absurd hes.error_mem (hsettings step' hstep' errors)
      · exact ⟨_, hr.trans (congrArg Except.error
          (refusal_of_mem_identitySteps (Op.setUp_mem_map.mp hstep') errors))⟩

theorem created (ctx : Context) (name : String) (priority : Option String) (w : World σ) :
    Created E ctx name priority w := by
  constructor
  case bound =>
    intro p hp
    obtain ⟨-, rfl⟩ := eq_made_of_create hp
    exact boundTo_made ctx name priority
  case stored =>
    intro p hp
    obtain ⟨hname, rfl⟩ := eq_made_of_create hp
    obtain ⟨-, refusal, hes, hr⟩ := (prepares_create (E := E) hname priority).since w
    cases refusal with
    | some refusal => exact nomatch hr.symm.trans hp
    | none =>
      rw [Tls.Request.stored, hes.accepted_eq, made, context_requestFor]
      exact foldl_store_steps ctx name priority _
  case misnamed =>
    intro hfault
    obtain ⟨reason, hname⟩ := Option.ne_none_iff_exists'.mp
      (mt nameFault?_eq_none_iff.mp (not_and_or.mpr (hfault.imp not_not.mpr not_not.mpr)))
    rw [run_create_of_nameFault hname, World.since_self]
    exact ⟨rfl, reason, rfl⟩
  case refused =>
    intro step errors hstep hev
    cases hname : nameFault? name with
    | some reason =>
      rw [run_create_of_nameFault hname, World.since_self] at hev
      cases hev
    | none =>
      obtain ⟨-, refusal, hes, hr⟩ := (prepares_create (E := E) hname priority).since w
      obtain rfl := hes.eq_some_of_mem hev
      exact hr.trans (congrArg Except.error (refusal_of_mem_identitySteps hstep errors))
  case unwelcome =>
    rintro ⟨step, hstep, hE⟩ hsettings
    exact create_of_unwelcome hstep hE hsettings
  case tooLong =>
    intro hE hhost hlong hsettings
    have hstep : Tls.SetUp.askName name ∈ identitySteps name := by
      rw [identitySteps, hhost]
      exact List.mem_cons_self
    exact create_of_unwelcome hstep (fun state => hE name state hlong) hsettings

end

end Pending

/-! ## Sessions of clients -/

section

variable {name : String} {policy : Policy}

/-- Operations that neither set up nor secure a session. -/
theorem Op.boundTo_of {p : Op → Prop} (hsetUp : ∀ step, ¬ p (.setUp step))
    (hhandshake : ∀ s request v, ¬ p (.handshake s request v)) {op : Op} (h : p op) :
    op.BoundTo name policy := by
  cases op with
  | setUp step => exact absurd h (hsetUp step)
  | handshake s request v => exact absurd h (hhandshake s request v)
  | _ => trivial

theorem Op.boundTo_of_mem_steps {ctx : Context} {priority : Option String} {op : Op}
    (h : op ∈ Pending.steps ctx name priority) : op.BoundTo name policy := by
  rw [Pending.steps, List.mem_append, List.mem_cons] at h
  rcases h with h | rfl | h
  · rcases Context.mem_stepsFor h with rfl | ⟨_, -, rfl⟩ | ⟨_, rfl⟩ | ⟨_, rfl⟩ | ⟨_, rfl⟩ <;>
      trivial
  · trivial
  · unfold Pending.identitySteps at h
    cases hname : IpAddress.ofText? name with
    | some ip =>
      rw [hname] at h
      rw [List.mem_singleton.mp h]
      exact hname
    | none =>
      rw [hname] at h
      simp only [List.map_cons, List.map_nil, List.mem_cons, List.not_mem_nil, or_false] at h
      rcases h with rfl | rfl <;> exact ⟨hname, rfl⟩

theorem SetUps.boundTo {ctx : Context} {priority : Option String} {es : List Event}
    {refusal : Option (Tls.SetUp × LibraryErrors)}
    (h : SetUps (Pending.steps ctx name priority) es refusal) :
    ∀ ev ∈ es, ev.op.BoundTo name policy :=
  fun ev hev => Op.boundTo_of_mem_steps (h.op_mem ev hev)

/-- The attempts at a handshake are all for the name, since the verifier stays with it. -/
theorem Pending.Attempts.boundTo {s : Socket} {request : Tls.Request} {v v' : Verifier}
    {es : List Event} {o : Except Tls.Failure Tls.Negotiated} (h : Attempts s request v es v' o)
    (hv : Pending.BoundTo ⟨request, v⟩ name policy) :
    (∀ ev ∈ es, ev.op.BoundTo name policy) ∧ Pending.BoundTo ⟨request, v'⟩ name policy := by
  have hobserve (v : Verifier) (calls : List Callback)
      (hv : Pending.BoundTo ⟨request, v⟩ name policy) :
      Pending.BoundTo ⟨request, (v.observe calls).2⟩ name policy := by
    rw [Verifier.observe_eq]
    exact ⟨hv.verifyMode, hv.expects, hv.serverName_eq, hv.policy_eq⟩
  induction h with
  | decided => exact ⟨List.forall_mem_singleton.mpr hv, hobserve _ _ hv⟩
  | interrupted _ _ ih =>
    obtain ⟨hes, hv'⟩ := ih (hobserve _ _ hv)
    exact ⟨List.forall_mem_cons.mpr ⟨hv, hes⟩, hv'⟩

/-- The session is for the name, and so is all that has been found out for it. -/
structure Session.BoundTo (s : Session) (name : String) (policy : Policy) : Prop where
  serverName_eq : s.serverName = name
  policy_eq : s.verifier.policy = policy

/-- What an exchange says about sessions says it about one for the name. -/
structure Exchange.BoundTo (x : Exchange) (name : String) (policy : Policy) : Prop where
  events : ∀ ev ∈ x.events, ev.op.BoundTo name policy
  reply : ∀ msg n reason es, x = ⟨.connect msg, .error (.serverName n reason), es⟩ → n = name

/-- A client has had to do with sessions for the name only. -/
structure Conversation.BoundTo (t : Conversation) (name : String) (policy : Policy) : Prop where
  exchanges : ∀ x ∈ t.exchanges, x.BoundTo name policy
  session : ∀ s, t.client.session = some s → s.BoundTo name policy

/-- An exchange that sets up and secures nothing. -/
theorem Exchange.BoundTo.of_silent {p : Op → Prop} (hsetUp : ∀ step, ¬ p (.setUp step))
    (hhandshake : ∀ s request v, ¬ p (.handshake s request v)) {x : Exchange}
    (hes : ∀ ev ∈ x.events, p ev.op)
    (hreply : ∀ msg n reason es, x ≠ ⟨.connect msg, .error (.serverName n reason), es⟩) :
    x.BoundTo name policy where
  events ev hev := Op.boundTo_of hsetUp hhandshake (hes ev hev)
  reply msg n reason es hx := absurd hx (hreply msg n reason es)

end

namespace Client

variable {c : Client} {ctx : Context} {es : List Event} {name : String} {policy : Policy}

/-- What opening a client has to do with sessions for the name only. -/
structure OpensTo (name : String) (policy : Policy) (es : List Event)
    (r : Except ConnectionError Unit × Client) : Prop where
  events : ∀ ev ∈ es, ev.op.BoundTo name policy
  reply : ∀ n reason, r.1 = .error (.serverName n reason) → n = name
  session : ∀ s, r.2.session = some s → s.BoundTo name policy

theorem Establishing.opensTo {p : Pending} {r : Except ConnectionError Unit × Client}
    (h : Establishing c p es r) (hp : p.BoundTo name policy) (hsession : c.session = none) :
    OpensTo name policy es r := by
  have hreached {es : List Event} {o : Except TransportError Socket}
      (h : Transport.Reached (c.carriedBy none).transport es o) :
      ∀ ev ∈ es, ev.op.BoundTo name policy := fun ev hev =>
    Op.boundTo_of (p := Op.IsConnecting) (fun _ h => h) (fun _ _ _ h => h) (h.isConnecting ev hev)
  have hnone : ∀ s, (c.carriedBy none).session = some s → s.BoundTo name policy :=
    fun s hs => nomatch hsession.symm.trans hs
  cases h with
  | unreached h => exact ⟨hreached h, nofun, hnone⟩
  | undoubled h =>
    exact ⟨List.forall_mem_append.mpr ⟨hreached h, by simp [Op.BoundTo]⟩, nofun, hnone⟩
  | refused h ha =>
    obtain ⟨hattempts, -⟩ := ha.boundTo hp
    refine ⟨List.forall_mem_append.mpr ⟨hreached h, List.forall_mem_cons.mpr ⟨trivial, ?_⟩⟩, nofun,
      hnone⟩
    exact List.forall_mem_append.mpr ⟨hattempts, List.forall_mem_singleton.mpr trivial⟩
  | secured h ha =>
    obtain ⟨hattempts, hv⟩ := ha.boundTo hp
    refine ⟨List.forall_mem_append.mpr ⟨hreached h, List.forall_mem_cons.mpr ⟨trivial, hattempts⟩⟩,
      nofun, fun s hs => ?_⟩
    obtain rfl := Option.some.inj hs
    exact ⟨hv.serverName_eq, hv.policy_eq⟩

/-- **A client is opened for the name of its endpoint**, wherever the connection goes. -/
theorem Course.opensTo {r : Except ConnectionError Unit × Client} (h : Course c ctx es r)
    (hsession : c.session = none) :
    OpensTo c.endpoint.remoteName ctx.config.policy es r := by
  have hnone : ∀ s, c.session = some s → s.BoundTo c.endpoint.remoteName ctx.config.policy :=
    fun s hs => nomatch hsession.symm.trans hs
  cases h with
  | misnamed =>
    refine ⟨fun _ hev => absurd hev List.not_mem_nil, fun n reason herror => ?_, hnone⟩
    cases herror
    rfl
  | @unprepared es step errors _ hes =>
    refine ⟨hes.boundTo, fun n reason herror => ?_, hnone⟩
    have herror := Except.error.inj herror
    cases step with
    | askName | expectHost | expectIp =>
      cases herror
      rfl
    | _ => cases herror
  | prepared _ hes h =>
    obtain ⟨hevents, hreply, hs⟩ := h.opensTo (Pending.boundTo_made ctx _ _) hsession
    exact ⟨List.forall_mem_append.mpr ⟨hes.boundTo, hevents⟩, hreply, hs⟩

theorem Move.boundTo {call : Call} {r : call.Reply × Client} (h : Move c call es r)
    (hctx : c.context = some ctx)
    (hs : ∀ s, c.session = some s → s.BoundTo c.endpoint.remoteName ctx.config.policy) :
    Exchange.BoundTo ⟨call, r.1, es⟩ c.endpoint.remoteName ctx.config.policy ∧
      ∀ s, r.2.session = some s → s.BoundTo c.endpoint.remoteName ctx.config.policy := by
  obtain ⟨reply, c'⟩ := r
  cases h with
  | opening _ hctx' hsession _ h =>
    obtain rfl := Option.some.inj (hctx.symm.trans hctx')
    obtain ⟨hevents, hreply, hs'⟩ := h.opensTo hsession
    refine ⟨⟨hevents, fun msg n reason es hx => ?_⟩, hs'⟩
    cases hx
    exact hreply n reason rfl
  | connecting _ _ h =>
    refine ⟨.of_silent (p := Op.IsConnecting) (fun _ h => h) (fun _ _ _ h => h) h.isConnecting
      fun _ _ _ _ hx => ?_, hs⟩
    cases h <;> cases hx
  | @records _ s _ _ htransfer _ hes =>
    refine ⟨.of_silent (p := Op.IsRecord s.socket) (fun _ h => h) (fun _ _ _ h => h) hes
      fun _ _ _ _ hx => ?_, hs⟩
    cases hx
    exact nomatch htransfer
  | raw htransfer _ _ hes =>
    refine ⟨.of_silent (p := fun op => op.isRaw = true) (fun _ h => nomatch h)
      (fun _ _ _ h => nomatch h) hes fun _ _ _ _ hx => ?_, hs⟩
    cases hx
    exact nomatch htransfer
  | closeSession | closeTransport =>
    refine ⟨⟨by simp [Op.BoundTo], fun _ _ _ _ hx => ?_⟩, fun _ hs' => nomatch hs'⟩
    cases hx
  | _ => exact ⟨⟨by simp, fun _ _ _ _ hx => by cases hx⟩, hs⟩

end Client

/-! ## All calls -/

theorem Endpoint.remoteName_foldl_set (changes : List Endpoint.Setter) (e : Endpoint) :
    (changes.foldl Endpoint.set e).remoteName = e.remoteName := by
  induction changes generalizing e with
  | nil => rfl
  | cons change changes ih =>
    rw [List.foldl_cons, ih]
    cases change <;> rfl

theorem conversation_boundTo {κ : Type} [DecidableEq κ] {k : κ} {clients : κ → Client}
    {endpoint : Endpoint} {ctx : Context}
    (hnew : Client.new endpoint (some ctx) = .ok (clients k)) (calls : List (κ × Call))
    (w : World σ) :
    (conversation E clients calls w k).BoundTo endpoint.remoteName ctx.config.policy := by
  have hnone := (Client.isNew_of_new hnew).session_eq
  refine conversation_induction_of_new (E := E)
    (P := fun t => t.BoundTo endpoint.remoteName ctx.config.policy) hnew
    ⟨fun _ hx => absurd hx List.not_mem_nil, fun _ hs => nomatch hnone.symm.trans hs⟩
    (fun t call es r hendpoint hcontext ⟨hexchanges, hsession⟩ hmove => ?_) calls w
  have hmoved := hmove.boundTo hcontext (by rw [hendpoint]; exact hsession)
  rw [hendpoint] at hmoved
  exact ⟨List.forall_mem_append.mpr ⟨hexchanges, List.forall_mem_singleton.mpr hmoved.1⟩, hmoved.2⟩

/-- **Every session is bound to its name**: one that is made of a context to the name that was
given, and one of a client to the remote name of its endpoint, whatever else was said of it. -/
theorem sessions_bound (E : Environment σ) (ctx : Context) :
    (∀ name priority w, Pending.Created E ctx name priority w) ∧
    ∀ {κ : Type} [DecidableEq κ] (k : κ) (clients : κ → Client) (remoteName : String)
      (changes : List Endpoint.Setter),
      Client.new (changes.foldl Endpoint.set (.new remoteName)) (some ctx) = .ok (clients k) →
      ∀ (calls : List (κ × Call)) (w : World σ),
        (conversation E clients calls w k).BoundTo remoteName ctx.config.policy := by
  refine ⟨fun name priority w => Pending.created ctx name priority w, ?_⟩
  intro κ _ k clients remoteName changes hnew calls w
  have hbound := conversation_boundTo (E := E) hnew calls w
  rw [Endpoint.remoteName_foldl_set] at hbound
  exact hbound

namespace Peer

/-- The network does not ask for names that are too long. -/
theorem Network.limitsNames : environment.LimitsNames := fun _ _ hlong =>
  ⟨.nonempty, if_neg (Nat.not_le.mpr hlong)⟩

namespace Loopback

/-- A client over TLS of a peer that is not looked for where its name says. -/
def relocated : List Endpoint.Setter := [.tls true, .host "127.0.0.1"]

/-- Clients of it. -/
def relocatedClients : Bool → Client := fun _ =>
  let endpoint := relocated.foldl Endpoint.set (.new "localhost")
  ⟨endpoint, some made, endpoint.transport, none⟩

/-- What passes with one of them. -/
def relocatedTalk : Conversation :=
  conversation Network.environment relocatedClients [(true, .connect "first")]
    (.start (bundled [])) true

end Loopback

end Peer

theorem sessions_bound_loopback :
    Pending.Created Peer.Network.environment Peer.Loopback.made "localhost" none
      (.start (Peer.Loopback.bundled [])) ∧
    Peer.Network.environment.LimitsNames ∧
    Peer.Loopback.relocatedTalk.BoundTo "localhost" Peer.Loopback.made.config.policy ∧
    Peer.Loopback.relocatedTalk.client.session.map Session.serverName = some "localhost" := by
  obtain ⟨hcreated, htalks⟩ := sessions_bound Peer.Network.environment Peer.Loopback.made
  exact ⟨hcreated "localhost" none _, Peer.Network.limitsNames,
    htalks true Peer.Loopback.relocatedClients "localhost" Peer.Loopback.relocated rfl _ _,
    by decide +kernel⟩

end SecureStream
