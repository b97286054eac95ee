import Mathlib.Data.List.Induction
import SecureStream.Proofs.Binding
import SecureStream.Proofs.Restoration

/-!
# Where clients connect to

A caller says in any order, and as often as wanted, where a client connects to. What was said last
of a setting decides, and a port that was never given is that of the kind of connection.

* `Endpoint.Setting`, `Endpoint.last`: the settings, and what was last said of one;
* `Endpoint.set_comm`, `Endpoint.set_set`, `Endpoint.foldl_set_eq`: what changes come to;
* `Endpoint.Settled`: host and port after some changes, in whatever order they were made;
* `HeadsFor`, `Transport.Reached.headsFor`: events that look for one host and port only;
* `Sights`, `Client.Move.headsFor`: what an attempt to open a client looks for, and what all else
  that is asked of it does not;
* `Conversation.HeadsFor`: where a client has gone and will go;
* **`endpoint_settled`**: clients connect to the host and port of their endpoint, and to nothing
  else, for as long as they are used.
-/

namespace SecureStream

variable {σ : Type} {E : Environment σ}

/-! ## Changes of an endpoint -/

namespace Endpoint

/-- The settings that a caller may change. -/
inductive Setting
  | tls
  | host
  | port
  | limit
  | priority
  deriving DecidableEq

namespace Setter

/-- The setting that is changed. -/
def setting : Setter → Setting
  | .tls _ => .tls
  | .host _ => .host
  | .port _ => .port
  | .limit _ => .limit
  | .priority _ => .priority

/-- Whether TLS is to be used, if the change says so. -/
def tls? : Setter → Option Bool
  | .tls enabled => some enabled
  | _ => none

/-- The host to connect to, if the change names one. -/
def host? : Setter → Option String
  | .host name => some name
  | _ => none

/-- The port to connect to, if the change names one. -/
def port? : Setter → Option UInt16
  | .port number => some number
  | _ => none

/-- The time limit or its absence, if the change is about it. -/
def limit? : Setter → Option (Option Nat)
  | .limit milliseconds => some milliseconds
  | _ => none

/-- The priority string, if the change names one. -/
def priority? : Setter → Option String
  | .priority text => some text
  | _ => none

end Setter

section

variable {α : Type} {remoteName : String} {e : Endpoint} {s t : Setter}
  {changes other : List Setter}

/-- What was last said of a setting. -/
def last (read : Setter → Option α) (changes : List Setter) : Option α :=
  (changes.filterMap read).getLast?

theorem last_concat (read : Setter → Option α) (changes : List Setter) (s : Setter) :
    last read (changes ++ [s]) = (read s).or (last read changes) := by
  rw [last, List.filterMap_append, List.getLast?_append]
  cases hs : read s <;> simp [hs, last]

/-- Changes of different settings may be made in any order. -/
theorem set_comm (h : s.setting ≠ t.setting) : (e.set s).set t = (e.set t).set s := by
  cases s <;> cases t <;> simp_all [set, Setter.setting]

/-- A later change of a setting overrides an earlier one. -/
theorem set_set (h : s.setting = t.setting) : (e.set s).set t = e.set t := by
  cases s <;> cases t <;> simp_all [set, Setter.setting]

/-- What was last said of each setting makes an endpoint. -/
theorem foldl_set_eq (remoteName : String) (changes : List Setter) :
    changes.foldl set (new remoteName) =
      ⟨remoteName, last Setter.host? changes, last Setter.port? changes,
        (last Setter.tls? changes).getD false,
        (last Setter.limit? changes).getD (some defaultLimit),
        last Setter.priority? changes⟩ := by
  induction changes using List.reverseRecOn with
  | nil => rfl
  | append_singleton changes s ih =>
    rw [List.foldl_concat, ih]
    simp only [last_concat]
    cases s <;> simp [set, Setter.host?, Setter.port?, Setter.tls?, Setter.limit?, Setter.priority?]

/-- A change is of no account if the setting is changed again. -/
theorem foldl_set_overridden (h : s.setting = t.setting) (between : List Setter) (e : Endpoint) :
    (between.foldl set (e.set s)).set t = (between.foldl set e).set t := by
  induction between generalizing e with
  | nil => exact set_set h
  | cons u between ih =>
    rw [List.foldl_cons, List.foldl_cons]
    by_cases hu : s.setting = u.setting
    · rw [set_set hu]
    · rw [set_comm hu]
      exact ih (e.set u)

theorem last_filter {read : Setter → Option α} {setting : Setting}
    (h : ∀ s : Setter, s.setting ≠ setting → read s = none) (changes : List Setter) :
    last read (changes.filter (·.setting = setting)) = last read changes := by
  have hread (s : Setter) : (if s.setting = setting then read s else none) = read s := by
    split
    · rfl
    · next hs => exact (h s hs).symm
  rw [last, last, List.filterMap_filter]
  simp only [decide_eq_true_eq, hread]

/-- All that matters is in which order each setting was changed. -/
theorem foldl_set_congr (h : ∀ setting : Setting,
    changes.filter (·.setting = setting) = other.filter (·.setting = setting)) :
    changes.foldl set (new remoteName) = other.foldl set (new remoteName) := by
  have hlast {α : Type} (read : Setter → Option α) (setting : Setting)
      (hread : ∀ s : Setter, s.setting ≠ setting → read s = none) :
      last read changes = last read other := by
    rw [← last_filter hread, h setting, last_filter hread]
  rw [foldl_set_eq, foldl_set_eq, hlast Setter.host? .host, hlast Setter.port? .port,
    hlast Setter.tls? .tls, hlast Setter.limit? .limit, hlast Setter.priority? .priority]
  all_goals
    intro s hs
    cases s <;> simp_all [Setter.setting, Setter.host?, Setter.port?, Setter.tls?, Setter.limit?,
      Setter.priority?]

end

/-- What some changes come to. -/
structure Settled (remoteName : String) (changes : List Setter) : Prop where
  remoteName_eq : (changes.foldl set (new remoteName)).remoteName = remoteName
  tls_eq : (changes.foldl set (new remoteName)).tls = (last Setter.tls? changes).getD false
  /-- The host is the one that was named last, or else the remote name. -/
  connectHost_eq : (changes.foldl set (new remoteName)).connectHost =
    (last Setter.host? changes).getD remoteName
  /-- The port is the one that was named last, or else that of the kind of connection. -/
  connectPort_eq : (changes.foldl set (new remoteName)).connectPort =
    (last Setter.port? changes).getD (if (last Setter.tls? changes).getD false then 443 else 80)
  commuting : ∀ before s t after, s.setting ≠ t.setting →
    (before ++ s :: t :: after).foldl set (new remoteName) =
      (before ++ t :: s :: after).foldl set (new remoteName)
  overridden : ∀ before s between t after, s.setting = t.setting →
    (before ++ s :: between ++ t :: after).foldl set (new remoteName) =
      (before ++ between ++ t :: after).foldl set (new remoteName)
  reordered : ∀ other : List Setter, (∀ setting : Setting,
      changes.filter (·.setting = setting) = other.filter (·.setting = setting)) →
    changes.foldl set (new remoteName) = other.foldl set (new remoteName)

theorem settled (remoteName : String) (changes : List Setter) : Settled remoteName changes where
  remoteName_eq := by rw [foldl_set_eq]
  tls_eq := by rw [foldl_set_eq]
  connectHost_eq := by rw [foldl_set_eq]; rfl
  connectPort_eq := by rw [foldl_set_eq]; rfl
  commuting before s t after h := by
    simp only [List.foldl_append, List.foldl_cons]
    rw [set_comm h]
  overridden before s between t after h := by
    simp only [List.foldl_append, List.foldl_cons]
    rw [foldl_set_overridden h]
  reordered other h := foldl_set_congr h

end Endpoint

/-! ## Events on the way to a host -/

/-- Some events look for one host and port only, and connect to nothing else. -/
structure HeadsFor (host : String) (port : UInt16) (es : List Event) : Prop where
  resolved : ∀ h p a, ⟨.resolve h p, a⟩ ∈ es → h = host ∧ p = port
  /-- An address that is connected to was found for the host. -/
  connected : ∀ s address limit a, ⟨.connect s address limit, a⟩ ∈ es →
    ∃ addresses, ⟨.resolve host port, .ok addresses⟩ ∈ es ∧ address ∈ addresses

theorem Op.IsSetUp.not_isConnecting {op : Op} (h : op.IsSetUp) : ¬ op.IsConnecting := by
  cases op with
  | setUp | set => exact id
  | _ => exact absurd h id

theorem Op.IsRecord.not_isConnecting {s : Socket} {op : Op} (h : op.IsRecord s) :
    ¬ op.IsConnecting := by
  cases op with
  | tlsRead | tlsWrite => exact id
  | _ => exact absurd h id

theorem Op.not_isConnecting_of_isRaw {op : Op} (h : op.isRaw = true) : ¬ op.IsConnecting := by
  cases op with
  | read | write => exact id
  | _ => exact nomatch h

theorem Pending.Attempts.not_isConnecting {s : Socket} {request : Tls.Request} {v v' : Verifier}
    {es : List Event} {o : Except Tls.Failure Tls.Negotiated} (h : Attempts s request v es v' o) :
    ∀ ev ∈ es, ¬ ev.op.IsConnecting := by
  intro ev hev
  obtain ⟨u, hop⟩ := h.op_eq ev hev
  rw [hop]
  exact id

namespace HeadsFor

variable {host : String} {port : UInt16} {es es' : List Event}

theorem of_silent (h : ∀ ev ∈ es, ¬ ev.op.IsConnecting) : HeadsFor host port es where
  resolved _ _ _ hev := absurd trivial (h _ hev)
  connected _ _ _ _ hev := absurd trivial (h _ hev)

theorem append (h : HeadsFor host port es) (h' : HeadsFor host port es') :
    HeadsFor host port (es ++ es') where
  resolved n p a hev := (List.mem_append.mp hev).elim (h.resolved n p a) (h'.resolved n p a)
  connected s address limit a hev := by
    rcases List.mem_append.mp hev with hev | hev
    · obtain ⟨addresses, hmem, haddress⟩ := h.connected s address limit a hev
      exact ⟨addresses, List.mem_append_left _ hmem, haddress⟩
    · obtain ⟨addresses, hmem, haddress⟩ := h'.connected s address limit a hev
      exact ⟨addresses, List.mem_append_right _ hmem, haddress⟩

end HeadsFor

namespace Transport

variable {t : Transport} {address : SocketAddress} {addresses : List SocketAddress}
  {e : SystemError} {es : List Event}

theorem Attempted.address_eq {r : Except SystemError Socket} (h : Attempted t address es r) :
    ∀ s other limit a, ⟨.connect s other limit, a⟩ ∈ es → other = address := by
  intro s other limit a hev
  cases h <;> simp_all

theorem Attempted.connect_mem {s : Socket} (h : Attempted t address es (.ok s)) :
    ⟨.connect s address t.limit, .ok ()⟩ ∈ es := by
  cases h
  simp

theorem Attempted.not_resolve {r : Except SystemError Socket} (h : Attempted t address es r) :
    ∀ host port a, ⟨.resolve host port, a⟩ ∉ es := by
  intro host port a
  cases h <;> simp

/-- To get a connection, the host of the transport is looked up once, and of its addresses some are
connected to. -/
theorem Reached.headsFor {r : Except TransportError Socket} (h : Reached t es r) :
    HeadsFor t.host t.port es := by
  have hturn {addresses : List SocketAddress} {trials : List Trial}
      (h : t.InTurn addresses trials) :
      HeadsFor t.host t.port
        (⟨.resolve t.host t.port, .ok addresses⟩ :: trials.flatMap Trial.events) := by
    refine ⟨fun host port a hev => ?_, fun s address limit a hev => ?_⟩
    · rcases List.mem_cons.mp hev with heq | hev
      · cases heq
        exact ⟨rfl, rfl⟩
      · obtain ⟨x, hx, hev⟩ := List.mem_flatMap.mp hev
        exact absurd hev ((h.attempted x hx).not_resolve host port a)
    · rcases List.mem_cons.mp hev with heq | hev
      · cases heq
      · obtain ⟨x, hx, hev⟩ := List.mem_flatMap.mp hev
        rw [(h.attempted x hx).address_eq s address limit a hev]
        exact ⟨addresses, List.mem_cons_self, h.isPrefix.subset (List.mem_map_of_mem hx)⟩
  cases h with
  | unresolved =>
    refine ⟨fun host port a hev => ?_, fun s address limit a hev => ?_⟩
    · cases List.mem_singleton.mp hev
      exact ⟨rfl, rfl⟩
    · cases List.mem_singleton.mp hev
  | unreached h => exact hturn h
  | reached h => exact hturn h

theorem Reached.resolve_mem {r : Except TransportError Socket} (h : Reached t es r) :
    ∃ a, ⟨.resolve t.host t.port, a⟩ ∈ es := by
  cases h <;> exact ⟨_, List.mem_cons_self⟩

theorem Reached.connect_mem {s : Socket} (h : Reached t es (.ok s)) :
    ∃ address, ⟨.connect s address t.limit, .ok ()⟩ ∈ es := by
  cases h with
  | reached h houtcome =>
    obtain ⟨before, x, rfl, hs⟩ := eq_concat_of_outcomeOf houtcome
    have hx := h.attempted x (by simp)
    rw [hs] at hx
    exact ⟨x.address, List.mem_cons_of_mem _ (List.mem_flatMap.mpr ⟨x, by simp, hx.connect_mem⟩)⟩

end Transport

/-! ## Clients -/

/-- What an attempt to open a client has looked for, and what it has come to. -/
structure Sights (tls : Bool) (host : String) (port : UInt16) (es : List Event)
    (r : Except ConnectionError Unit) : Prop where
  events : HeadsFor host port es
  /-- The host is looked up, unless there is no session to open. -/
  tried : (∃ a, ⟨.resolve host port, a⟩ ∈ es) ∨ tls = true ∧ ∃ e, r = .error e ∧ e.IsOfSetUp
  /-- A client that opens has connected. -/
  opened : r = .ok () → ∃ s address limit, ⟨.connect s address limit, .ok ()⟩ ∈ es

/-- An exchange looks for one host and port only, and does so if it is to open the client. -/
structure Exchange.HeadsFor (x : Exchange) (tls : Bool) (host : String) (port : UInt16) : Prop where
  events : SecureStream.HeadsFor host port x.events
  opening : ∀ msg r es, x = ⟨.connect msg, r, es⟩ →
    r = .error (.invalidConfig "connection already open") ∨ Sights tls host port es r

namespace Client

variable {c : Client} {ctx : Context} {es : List Event}

theorem Opening.sights {r : Except ConnectionError Unit × Client} (h : Opening c ctx es r) :
    Sights true c.transport.host c.endpoint.connectPort es r.1 := by
  have hsetUp {es : List Event} (hes : ∀ ev ∈ es, ev.op.IsSetUp) :
      ∀ ev ∈ es, ¬ ev.op.IsConnecting := fun ev hev => (hes ev hev).not_isConnecting
  -- What follows on connecting is to no other host.
  have hreached {es es' tail : List Event} {o : Except TransportError Socket}
      {r : Except ConnectionError Unit} (hes : ∀ ev ∈ es, ev.op.IsSetUp)
      (h : Transport.Reached (c.carriedBy none).transport es' o)
      (htail : ∀ ev ∈ tail, ¬ ev.op.IsConnecting) (hr : r = .ok () → ∃ s, o = .ok s) :
      Sights true c.transport.host c.endpoint.connectPort (es ++ es' ++ tail) r := by
    have hmem {ev : Event} (hev : ev ∈ es') : ev ∈ es ++ es' ++ tail :=
      List.mem_append_left _ (List.mem_append_right _ hev)
    refine ⟨((HeadsFor.of_silent (hsetUp hes)).append h.headsFor).append (.of_silent htail), ?_,
      fun hok => ?_⟩
    · obtain ⟨a, ha⟩ := h.resolve_mem
      exact .inl ⟨a, hmem ha⟩
    · obtain ⟨s, rfl⟩ := hr hok
      obtain ⟨address, haddress⟩ := h.connect_mem
      exact ⟨s, address, _, hmem haddress⟩
  cases h with
  | unmade hes he => exact ⟨.of_silent (hsetUp hes), .inr ⟨rfl, _, rfl, he⟩, by simp⟩
  | unreached hes h =>
    rw [← List.append_nil (_ ++ _)]
    exact hreached hes h (by simp) (by simp)
  | undoubled hes h => exact hreached hes h (by simp [Op.IsConnecting]) (by simp)
  | refused hes h ha =>
    refine hreached hes h (List.forall_mem_cons.mpr ⟨id, List.forall_mem_append.mpr ?_⟩) (by simp)
    exact ⟨ha.not_isConnecting, List.forall_mem_singleton.mpr id⟩
  | secured hes h ha =>
    exact hreached hes h (List.forall_mem_cons.mpr ⟨id, ha.not_isConnecting⟩) fun _ => ⟨_, rfl⟩

theorem sights_of_reached {o : Except TransportError Socket}
    (h : Transport.Reached c.transport es o) : Sights false c.transport.host c.transport.port es
      ((c.transport.settled o).1.mapError .transport) where
  events := h.headsFor
  tried := .inl h.resolve_mem
  opened hok := by
    cases o with
    | error e => exact nomatch hok
    | ok s =>
      obtain ⟨address, haddress⟩ := h.connect_mem
      exact ⟨s, address, _, haddress⟩

/-- A client that is not open looks for its host and port to get open. -/
theorem Move.sights {msg : String} {r : (Call.connect msg).Reply × Client}
    (h : Move c (.connect msg) es r) (hopen : c.isOpen = false)
    (hport : c.transport.port = c.endpoint.connectPort) :
    Sights c.endpoint.tls c.transport.host c.transport.port es r.1 := by
  cases h with
  | openAlready hopen' => cases hopen.symm.trans hopen'
  | opening htls _ _ _ h =>
    rw [htls, hport]
    exact h.opening.sights
  | connecting htls _ h =>
    rw [htls]
    exact sights_of_reached h
  | records htransfer | raw htransfer => cases htransfer

/-- An exchange that does not open the client, and connects to nothing. -/
theorem headsFor_of_silent {x : Exchange} {tls : Bool} {host : String} {port : UInt16}
    (hes : ∀ ev ∈ x.events, ¬ ev.op.IsConnecting) (hcall : ∀ msg, x.call ≠ .connect msg) :
    x.HeadsFor tls host port where
  events := .of_silent hes
  opening msg r es hx := by
    rw [hx] at hcall
    exact absurd rfl (hcall msg)

/-- Whatever is asked of a client, it looks for its own host and port only. -/
theorem Move.headsFor {call : Call} {r : call.Reply × Client} (h : Move c call es r)
    (hport : c.transport.port = c.endpoint.connectPort) : Exchange.HeadsFor ⟨call, r.1, es⟩
      c.endpoint.tls c.transport.host c.transport.port := by
  have htransfer {call : Call} (h : call.isTransfer = true) : ∀ msg, call ≠ .connect msg := by
    rintro msg rfl
    cases h
  have hsights {msg : String} {r : (Call.connect msg).Reply × Client}
      (h : Move c (.connect msg) es r) (hopen : c.isOpen = false) :
      Exchange.HeadsFor ⟨.connect msg, r.1, es⟩ c.endpoint.tls c.transport.host
        c.transport.port := by
    refine ⟨(h.sights hopen hport).events, fun msg' r' es' hx => .inr ?_⟩
    cases hx
    exact h.sights hopen hport
  cases h with
  | openAlready =>
    refine ⟨.of_silent (by simp), fun msg' r' es' hx => .inl ?_⟩
    cases hx
    rfl
  | opening htls hctx hsession hstream h =>
    exact hsights (.opening htls hctx hsession hstream h) (by simp [isOpen, htls, hsession])
  | connecting htls hstream h =>
    exact hsights (.connecting htls hstream h)
      (by simp [isOpen, htls, hstream, Transport.isConnected])
  | unsent | unreceived => exact headsFor_of_silent (by simp) (by simp)
  | records h _ hes =>
    exact headsFor_of_silent (fun ev hev => (hes ev hev).not_isConnecting) (htransfer h)
  | raw h _ _ hes =>
    exact headsFor_of_silent (fun ev hev => Op.not_isConnecting_of_isRaw (hes ev hev)) (htransfer h)
  | closeSession | closeTransport =>
    exact headsFor_of_silent (by simp [Op.IsConnecting]) (by simp)
  | closeNothing => exact headsFor_of_silent (by simp) (by simp)

end Client

/-! ## All calls -/

/-- A client has looked for one host and port only, for one name, and will go on so. -/
structure Conversation.HeadsFor (E : Environment σ) (t : Conversation) (remoteName : String)
    (tls : Bool) (host : String) (port : UInt16) : Prop where
  host_eq : t.client.transport.host = host
  port_eq : t.client.transport.port = port
  exchanges : ∀ x ∈ t.exchanges, x.HeadsFor tls host port
  /-- The client may be opened again, if it is not open. -/
  reopening : t.client.isOpen = false → ∀ msg w,
    Sights tls host port ((t.client.connect E msg w).2.since w) (t.client.connect E msg w).1.1
  remoteName_eq : t.client.endpoint.remoteName = remoteName
  /-- The peer has to be what the remote name says, wherever it is looked for. -/
  verified : ∀ ctx, t.client.context = some ctx → t.BoundTo remoteName ctx.config.policy

section

variable {κ : Type} [DecidableEq κ] {clients : κ → Client} {k : κ}

theorem conversation_headsFor {endpoint : Endpoint} {context : Option Context}
    (hnew : Client.new endpoint context = .ok (clients k)) (calls : List (κ × Call))
    (w : World σ) : (conversation E clients calls w k).HeadsFor E endpoint.remoteName endpoint.tls
      endpoint.connectHost endpoint.connectPort := by
  have hmade := (Client.new_eq_ok_iff.mp hnew).2
  have hcoherent := (Client.isNew_of_new hnew).coherent
  -- A client that has lost its session and connection is the one that was made.
  have hkept {c : Client} (h : c.ended = clients k) : c.endpoint = endpoint ∧
      c.context = context ∧ c.transport.host = endpoint.connectHost ∧
      c.transport.port = endpoint.connectPort := by
    rw [hmade] at h
    exact ⟨congrArg Client.endpoint h, congrArg Client.context h,
      congrArg (fun c => c.transport.host) h, congrArg (fun c => c.transport.port) h⟩
  have hheads {c : Client} {call : Call} {es : List Event} {r : call.Reply × Client}
      (h : c.ended = clients k) (hmove : c.Move call es r) : Exchange.HeadsFor ⟨call, r.1, es⟩
        endpoint.tls endpoint.connectHost endpoint.connectPort := by
    obtain ⟨hendpoint, -, hhost, hport⟩ := hkept h
    have hown := hmove.headsFor (by rw [hport, hendpoint])
    rwa [hendpoint, hhost, hport] at hown
  have hended := conversation_ended (E := E) hnew calls w
  obtain ⟨hendpoint, hcontext, hhost, hport⟩ := hkept hended
  have hc := conversation_coherent (E := E) hcoherent calls w
  refine ⟨hhost, hport, fun x hx => ?_, fun hopen msg w => ?_,
    congrArg Endpoint.remoteName hendpoint, fun ctx hctx => ?_⟩
  · obtain ⟨before, after, hsplit⟩ := List.append_of_mem hx
    refine conversation_exchange (E := E) (P := fun t => t.client.ended = clients k)
      (Q := fun _ x => x.HeadsFor endpoint.tls endpoint.connectHost endpoint.connectPort)
      hcoherent ?_ (fun t call es r _ ih hmove _ => ⟨?_, hheads ih hmove⟩) calls w hsplit
    · rw [hmade]
      rfl
    · obtain ⟨hendpoint, -, -, hport⟩ := hkept ih
      exact (hmove.ended_eq (by rw [hport, hendpoint])).trans ih
  · have hmove := ((Client.emits_answer (E := E) hc (.connect msg)).since w).2
    have hsights := Client.Move.sights hmove hopen (by rw [hport, hendpoint])
    rwa [hendpoint, hhost, hport] at hsights
  · obtain rfl : context = some ctx := hcontext.symm.trans hctx
    exact conversation_boundTo hnew calls w

/-- **Clients connect to the host and port that were named last for them, or else to the remote name
and the port of their kind of connection, however often they are opened and closed**, and in
whatever order that was said. -/
theorem endpoint_settled (E : Environment σ) (remoteName : String)
    (changes : List Endpoint.Setter) :
    Endpoint.Settled remoteName changes ∧
    ∀ {κ : Type} [DecidableEq κ] (k : κ) (clients : κ → Client) (context : Option Context),
      Client.new (changes.foldl Endpoint.set (.new remoteName)) context = .ok (clients k) →
      ∀ (calls : List (κ × Call)) (w : World σ),
        (conversation E clients calls w k).HeadsFor E remoteName
          ((Endpoint.last Endpoint.Setter.tls? changes).getD false)
          ((Endpoint.last Endpoint.Setter.host? changes).getD remoteName)
          ((Endpoint.last Endpoint.Setter.port? changes).getD
            (if (Endpoint.last Endpoint.Setter.tls? changes).getD false then 443 else 80)) := by
  have hsettled := Endpoint.settled remoteName changes
  refine ⟨hsettled, ?_⟩
  intro κ _ k clients context hnew calls w
  have hheads := conversation_headsFor (E := E) hnew calls w
  rwa [hsettled.remoteName_eq, hsettled.tls_eq, hsettled.connectHost_eq,
    hsettled.connectPort_eq] at hheads

end

namespace Peer.Loopback

/-- What is said of a client over TLS, whose port is never named. -/
def retargeted : List Endpoint.Setter :=
  [.host "elsewhere", .tls false, .host "127.0.0.1", .limit none, .tls true]

/-- Clients of which that is said. -/
def retargetedClients : Bool → Client := fun _ =>
  let endpoint := retargeted.foldl Endpoint.set (.new "localhost")
  ⟨endpoint, some made, endpoint.transport, none⟩

/-- What passes with one of them after some calls. -/
def retargetedTalk (calls : List Call) : Conversation :=
  conversation Network.environment retargetedClients (calls.map fun call => (true, call))
    (.start (bundled [])) true

end Peer.Loopback

theorem endpoint_settled_loopback :
    Client.new (Peer.Loopback.retargeted.foldl Endpoint.set (.new "localhost"))
      (some Peer.Loopback.made) = .ok (Peer.Loopback.retargetedClients true) ∧
    (Peer.Loopback.retargetedTalk [.connect "first", .close, .connect "again"]).HeadsFor
      Peer.Network.environment "localhost" true "127.0.0.1" 443 ∧
    (Peer.Loopback.retargetedTalk [.connect "first"]).client.isOpen = true ∧
    (Peer.Loopback.retargetedTalk [.connect "first", .close]).client.isOpen = false := by
  have hnew : Client.new (Peer.Loopback.retargeted.foldl Endpoint.set (.new "localhost"))
      (some Peer.Loopback.made) = .ok (Peer.Loopback.retargetedClients true) := rfl
  refine ⟨hnew, ?_, by decide +kernel, by decide +kernel⟩
  exact (endpoint_settled Peer.Network.environment "localhost" Peer.Loopback.retargeted).2 true
    Peer.Loopback.retargetedClients (some Peer.Loopback.made) hnew _ _

end SecureStream
