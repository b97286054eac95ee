import SecureStream.Peer.Loopback
import SecureStream.Proofs.Emission

/-!
# One address after the other

A host may have any number of addresses. A transport tries them in the order in which they were
resolved, until it is connected to one of them, and says in the log which ones it has failed with.

* `Transport.Attempted`, `Transport.leaves_connectTo`: an attempt to connect to one address;
* `Trial`, `Trial.lines`: an attempt that was made, and what is logged of it;
* `Transport.InTurn`, `Transport.leaves_connectAny`: attempts as far as it takes;
* `Transport.Sought`: what becomes of a transport that gets connected;
* **`Transport.connect_sought`**: that is so wherever a transport is connected.
-/

namespace SecureStream

open Peer

variable {σ : Type} {E : Environment σ}

/-! ## Attempts -/

namespace Transport

/-- An attempt to connect to one address: its steps up to the first that fails, and how it ends. -/
inductive Attempted (t : Transport) (address : SocketAddress) :
    List Event → Except SystemError Socket → Prop
  | noSocket {e} : Attempted t address [⟨.socket address, .error e⟩] (.error e)
  | noDelay {s e} : Attempted t address
    [⟨.socket address, .ok s⟩, ⟨.noDelay s, .error e⟩] (.error e)
  | noKeepAlive {s e} : Attempted t address
    [⟨.socket address, .ok s⟩, ⟨.noDelay s, .ok ()⟩, ⟨.keepAlive s keepAliveSeconds, .error e⟩]
    (.error e)
  | refused {s e} : Attempted t address
    [⟨.socket address, .ok s⟩, ⟨.noDelay s, .ok ()⟩, ⟨.keepAlive s keepAliveSeconds, .ok ()⟩,
      ⟨.connect s address t.limit, .error e⟩] (.error e)
  | noReadLimit {s e} : Attempted t address
    [⟨.socket address, .ok s⟩, ⟨.noDelay s, .ok ()⟩, ⟨.keepAlive s keepAliveSeconds, .ok ()⟩,
      ⟨.connect s address t.limit, .ok ()⟩, ⟨.readLimit s t.limit, .error e⟩] (.error e)
  | noWriteLimit {s e} : Attempted t address
    [⟨.socket address, .ok s⟩, ⟨.noDelay s, .ok ()⟩, ⟨.keepAlive s keepAliveSeconds, .ok ()⟩,
      ⟨.connect s address t.limit, .ok ()⟩, ⟨.readLimit s t.limit, .ok ()⟩,
      ⟨.writeLimit s t.limit, .error e⟩] (.error e)
  | connected {s} : Attempted t address
    [⟨.socket address, .ok s⟩, ⟨.noDelay s, .ok ()⟩, ⟨.keepAlive s keepAliveSeconds, .ok ()⟩,
      ⟨.connect s address t.limit, .ok ()⟩, ⟨.readLimit s t.limit, .ok ()⟩,
      ⟨.writeLimit s t.limit, .ok ()⟩] (.ok s)

theorem leaves_connectTo (t : Transport) (address : SocketAddress) :
    Leaves E (t.connectTo E address).run fun es lines r =>
      Attempted t address es r ∧ lines = [] := by
  unfold connectTo
  refine .attempt_bindE (fun r => ⟨.socket address, r⟩) (.perform fun _ => ⟨rfl, rfl⟩)
    (fun _ => ⟨.noSocket, rfl⟩) fun s => ?_
  refine .attempt_bindE (fun r => ⟨.noDelay s, r⟩) (.perform fun _ => ⟨rfl, rfl⟩)
    (fun _ => ⟨.noDelay, rfl⟩) fun _ => ?_
  refine .attempt_bindE (fun r => ⟨.keepAlive s keepAliveSeconds, r⟩)
    (.perform fun _ => ⟨rfl, rfl⟩) (fun _ => ⟨.noKeepAlive, rfl⟩) fun _ => ?_
  refine .attempt_bindE (fun r => ⟨.connect s address t.limit, r⟩) (.perform fun _ => ⟨rfl, rfl⟩)
    (fun _ => ⟨.refused, rfl⟩) fun _ => ?_
  refine .attempt_bindE (fun r => ⟨.readLimit s t.limit, r⟩) (.perform fun _ => ⟨rfl, rfl⟩)
    (fun _ => ⟨.noReadLimit, rfl⟩) fun _ => ?_
  refine .attempt_bindE (fun r => ⟨.writeLimit s t.limit, r⟩) (.perform fun _ => ⟨rfl, rfl⟩)
    (fun _ => ⟨.noWriteLimit, rfl⟩) fun _ => ?_
  exact .pure ⟨.connected, rfl⟩

end Transport

/-- An attempt to connect to an address: what was done, and how it ended. -/
structure Trial where
  address : SocketAddress
  events : List Event
  outcome : Except SystemError Socket

namespace Trial

/-- The warning that is logged of an attempt, if it fails. -/
def warning? (x : Trial) : Option LogLine :=
  match x.outcome with
  | .ok _ => none
  | .error e => some (.warn ("Failed connecting to " ++ x.address.text ++ ": " ++ e.message))

/-- What is logged of an attempt. -/
def lines (t : Transport) (msg : String) (x : Trial) : List LogLine :=
  .debug (msg ++ ", connecting to " ++ t.host ++ " (" ++ x.address.text ++ ")") ::
    x.warning?.toList

end Trial

namespace Transport

/-- Attempts to connect to some addresses, one after the other, as far as it takes. -/
structure InTurn (t : Transport) (addresses : List SocketAddress) (trials : List Trial) : Prop where
  /-- An attempt goes on until a step fails, and succeeds if none does. -/
  attempted : ∀ x ∈ trials, t.Attempted x.address x.events x.outcome
  /-- The addresses are tried in order, each as often as it occurs. -/
  isPrefix : trials.map Trial.address <+: addresses
  /-- There is no attempt behind one that succeeds. -/
  last : ∀ before x after s, trials = before ++ x :: after → x.outcome = .ok s → after = []
  /-- All addresses are tried if no attempt succeeds. -/
  all : (∀ x ∈ trials, ∃ e, x.outcome = .error e) → trials.map Trial.address = addresses

/-- How some attempts end: as the last one of them, or with an error if there is none. -/
def outcomeOf (e : SystemError) (trials : List Trial) : Except SystemError Socket :=
  (trials.getLast?.map Trial.outcome).getD (.error e)

/-- The answer and the transport after connecting. -/
def settled (t : Transport) :
    Except TransportError Socket → Except TransportError Unit × Transport
  | .ok s => (.ok (), { t with stream := some s })
  | .error e => (.error e, t)

/-- What becomes of a transport without a connection that gets connected: the answer about its
host's addresses, and the attempts to connect to them. -/
structure Sought (t : Transport) (msg : String) (answer : Except SystemError (List SocketAddress))
    (trials : List Trial) (es : List Event) (lines : List LogLine)
    (r : Except TransportError Unit × Transport) : Prop where
  /-- The host is looked up once, before all attempts. -/
  events_eq : es = ⟨.resolve t.host t.port, answer⟩ :: trials.flatMap Trial.events
  lines_eq : lines = trials.flatMap (Trial.lines t msg)
  /-- There is a warning for each attempt that fails, and no other. -/
  warnings_eq : (lines.filter fun line => line.level = .warn) = trials.filterMap Trial.warning?
  unresolved : ∀ e, answer = .error e →
    trials = [] ∧ r = (.error (.invalidRemoteAddr t.host t.port e), t)
  inTurn : ∀ addresses, answer = .ok addresses → t.InTurn addresses trials
  ok_iff : r.1 = .ok () ↔ ∃ x ∈ trials, ∃ s, x.outcome = .ok s
  connected : ∀ x ∈ trials, ∀ s, x.outcome = .ok s → r = (.ok (), { t with stream := some s })
  /-- The error is that of the last attempt, if it fails. -/
  refused : ∀ before x e, trials = before ++ [x] → x.outcome = .error e →
    r = (.error (.connectFailed t.host t.port e), t)
  homeless : answer = .ok [] →
    r = (.error (.connectFailed t.host t.port (.custom .notFound "no addresses resolved")), t)

variable {t : Transport} {msg : String} {address : SocketAddress}
  {addresses : List SocketAddress} {trials : List Trial}

/-! ## Attempts in turn -/

namespace InTurn

theorem nil : t.InTurn [] [] where
  attempted _ hx := absurd hx List.not_mem_nil
  isPrefix := List.nil_prefix
  last _ _ _ _ h _ := absurd h not_split_nil
  all _ := rfl

/-- An attempt that succeeds is the only one. -/
theorem singleton {es : List Event} {s : Socket} (h : t.Attempted address es (.ok s))
    (rest : List SocketAddress) : t.InTurn (address :: rest) [⟨address, es, .ok s⟩] where
  attempted := List.forall_mem_singleton.mpr h
  isPrefix := List.prefix_append [address] rest
  last before x after s' hsplit _ := (split_singleton hsplit).2.2
  all hfailed := by
    obtain ⟨e, he⟩ := hfailed _ List.mem_cons_self
    exact nomatch he

/-- Behind an attempt that fails, it is the turn of the next address. -/
theorem cons {es : List Event} {e : SystemError} (h : t.Attempted address es (.error e))
    (hrest : t.InTurn addresses trials) :
    t.InTurn (address :: addresses) (⟨address, es, .error e⟩ :: trials) where
  attempted := List.forall_mem_cons.mpr ⟨h, hrest.attempted⟩
  isPrefix := (List.prefix_cons_inj address).mpr hrest.isPrefix
  last before x after s hsplit hx := by
    cases before with
    | nil =>
      obtain ⟨rfl, -⟩ := List.cons.inj hsplit
      exact nomatch hx
    | cons x' before => exact hrest.last before x after s (List.cons.inj hsplit).2 hx
  all hfailed := congrArg (address :: ·) (hrest.all (List.forall_mem_cons.mp hfailed).2)

/-- All attempts but the last one fail. -/
theorem failed_before {before : List Trial} {x : Trial} (h : t.InTurn addresses (before ++ [x])) :
    ∀ y ∈ before, ∃ e, y.outcome = .error e := by
  intro y hy
  obtain ⟨b, a, rfl⟩ := List.append_of_mem hy
  cases hs : y.outcome with
  | error e => exact ⟨e, rfl⟩
  | ok s =>
    have hnil : a ++ [x] = [] := h.last b y (a ++ [x]) s (by simp) hs
    exact absurd hnil (List.append_ne_nil_of_right_ne_nil _ (List.cons_ne_nil _ _))

end InTurn

theorem outcomeOf_concat (e : SystemError) (before : List Trial) (x : Trial) :
    outcomeOf e (before ++ [x]) = x.outcome := by
  rw [outcomeOf, List.getLast?_concat]
  rfl

/-- Attempts succeed as a whole only if the last one does. -/
theorem eq_concat_of_outcomeOf {e : SystemError} {s : Socket} (h : outcomeOf e trials = .ok s) :
    ∃ before x, trials = before ++ [x] ∧ x.outcome = .ok s := by
  rcases List.eq_nil_or_concat trials with rfl | ⟨before, x, rfl⟩
  · exact nomatch h
  · rw [List.concat_eq_append, outcomeOf_concat] at h
    exact ⟨before, x, List.concat_eq_append, h⟩

namespace InTurn

/-- Attempts succeed as a whole if one of them does. -/
theorem outcomeOf_eq (h : t.InTurn addresses trials) {x : Trial} (hx : x ∈ trials) {s : Socket}
    (hs : x.outcome = .ok s) (e : SystemError) : outcomeOf e trials = .ok s := by
  obtain ⟨before, after, rfl⟩ := List.append_of_mem hx
  obtain rfl := h.last before x after s rfl hs
  rw [outcomeOf_concat]
  exact hs

/-- Attempts fail as a whole only if all of them do. -/
theorem failed (h : t.InTurn addresses trials) {e e' : SystemError}
    (herror : outcomeOf e trials = .error e') : ∀ x ∈ trials, ∃ e, x.outcome = .error e := by
  intro x hx
  cases hs : x.outcome with
  | error e => exact ⟨e, rfl⟩
  | ok s => exact nomatch herror.symm.trans (h.outcomeOf_eq hx hs e)

end InTurn

theorem outcomeOf_cons {x : Trial} {e e' : SystemError} (h : x.outcome = .error e')
    (trials : List Trial) : outcomeOf e (x :: trials) = outcomeOf e' trials := by
  cases trials with
  | nil => exact h
  | cons y trials => rw [outcomeOf, outcomeOf, List.getLast?_cons_cons]; rfl

theorem warnings_lines (trials : List Trial) :
    ((trials.flatMap (Trial.lines t msg)).filter fun line => line.level = .warn) =
      trials.filterMap Trial.warning? := by
  induction trials with
  | nil => rfl
  | cons x trials ih =>
    obtain ⟨address, es, outcome⟩ := x
    rw [List.flatMap_cons, List.filter_append, ih]
    cases outcome <;> rfl

/-! ## Connecting -/

/-- Addresses are tried in turn, and connecting ends as the last attempt does. -/
theorem leaves_connectAny (t : Transport) (msg : String) (e : SystemError)
    (addresses : List SocketAddress) :
    Leaves E (t.connectAny E msg e addresses) fun es lines r => ∃ trials,
      t.InTurn addresses trials ∧ es = trials.flatMap Trial.events ∧
      lines = trials.flatMap (Trial.lines t msg) ∧ r = outcomeOf e trials := by
  induction addresses generalizing e with
  | nil => exact .pure ⟨[], .nil, rfl, rfl, rfl⟩
  | cons address rest ih =>
    unfold connectAny
    refine .say_bind ((leaves_connectTo t address).bind ?_)
    rintro es _ r ⟨h, rfl⟩
    cases r with
    | ok s =>
      refine .pure ⟨[⟨address, es, .ok s⟩], .singleton h rest, ?_, rfl, rfl⟩
      rw [List.append_nil, List.flatMap_singleton]
    | error e' =>
      refine .say_bind ((ih e').mono ?_)
      rintro _ _ _ ⟨trials, hturn, rfl, rfl, rfl⟩
      exact ⟨_, hturn.cons h, rfl, rfl, (outcomeOf_cons rfl trials).symm⟩

/-- Without addresses there are no attempts. -/
theorem sought_of_unresolved (t : Transport) (msg : String) (e : SystemError) :
    t.Sought msg (.error e) [] [⟨.resolve t.host t.port, .error e⟩] []
      (.error (.invalidRemoteAddr t.host t.port e), t) where
  events_eq := rfl
  lines_eq := rfl
  warnings_eq := rfl
  unresolved _ he := ⟨rfl, by rw [Except.error.inj he]⟩
  inTurn _ h := nomatch h
  ok_iff := by simp
  connected _ hx := absurd hx List.not_mem_nil
  refused _ _ _ h := absurd h not_split_nil
  homeless h := nomatch h

/-- What becomes of the transport is read off the attempts. -/
theorem InTurn.sought (h : t.InTurn addresses trials) (msg : String) :
    t.Sought msg (.ok addresses) trials
      (⟨.resolve t.host t.port, .ok addresses⟩ :: trials.flatMap Trial.events)
      (trials.flatMap (Trial.lines t msg))
      (t.settled ((outcomeOf noAddresses trials).mapError (.connectFailed t.host t.port))) where
  events_eq := rfl
  lines_eq := rfl
  warnings_eq := warnings_lines trials
  unresolved _ he := nomatch he
  inTurn _ haddresses := Except.ok.inj haddresses ▸ h
  ok_iff := by
    constructor
    · intro hok
      cases houtcome : outcomeOf noAddresses trials with
      | ok s =>
        obtain ⟨before, x, rfl, hs⟩ := eq_concat_of_outcomeOf houtcome
        exact ⟨x, by simp, s, hs⟩
      | error e => rw [houtcome] at hok; exact nomatch hok
    · rintro ⟨x, hx, s, hs⟩
      rw [h.outcomeOf_eq hx hs]
      rfl
  connected x hx s hs := by
    rw [h.outcomeOf_eq hx hs]
    rfl
  refused before x e htrials hx := by
    have houtcome : outcomeOf noAddresses trials = .error e := by
      rw [htrials, outcomeOf_concat, hx]
    rw [houtcome]
    rfl
  homeless hnil := by
    have htrials : trials = [] := by
      have hprefix := h.isPrefix
      rw [Except.ok.inj hnil, List.prefix_nil] at hprefix
      exact List.map_eq_nil_iff.mp hprefix
    rw [htrials]
    rfl

theorem leaves_connect (ht : t.stream = none) (msg : String) :
    Leaves E (t.connect E msg) fun es lines r =>
      ∃ answer trials, t.Sought msg answer trials es lines r := by
  unfold connect
  rw [ht]
  refine .perform_bind fun answer => ?_
  cases answer with
  | error e => exact .pure ⟨_, _, sought_of_unresolved t msg e⟩
  | ok addresses =>
    refine (leaves_connectAny t msg noAddresses addresses).bind ?_
    rintro _ _ _ ⟨trials, hturn, rfl, rfl, rfl⟩
    have hsought := hturn.sought msg
    rw [← List.append_nil (trials.flatMap Trial.events),
      ← List.append_nil (trials.flatMap (Trial.lines t msg))] at hsought
    cases houtcome : outcomeOf noAddresses trials with
    | ok s =>
      rw [houtcome] at hsought
      exact .pure ⟨.ok addresses, trials, hsought⟩
    | error e =>
      rw [houtcome] at hsought
      exact .pure ⟨.ok addresses, trials, hsought⟩

/-- **A transport is connected to the first of its host's addresses that it can be connected to, and
one that has a connection is left alone.** -/
theorem connect_sought (t : Transport) (msg : String) (w : World σ) :
    (t.isConnected = true → t.connect E msg w = ((.ok (), t), w)) ∧
    (t.isConnected = false → ∃ es lines, World.Gains w (t.connect E msg w).2 es lines ∧
      (∀ ev ∈ es, E.Gives ev) ∧
      ∃ answer trials, t.Sought msg answer trials es lines (t.connect E msg w).1) := by
  refine ⟨fun h => ?_, fun h => ?_⟩
  · have hstream : t.stream.isSome = true := h
    unfold connect
    rw [if_pos hstream]
    rfl
  · have hstream : t.stream.isSome = false := h
    exact leaves_connect (Option.not_isSome_iff_eq_none.mp (by simp [hstream])) msg w

/-- A transport is connected to the peer on this machine, and then left alone. -/
theorem connect_sought_loopback :
    (∃ es lines, World.Gains (.start (Loopback.plainNetwork []))
        (Loopback.plainClient.transport.connect Network.environment "Loopback"
          (.start (Loopback.plainNetwork []))).2 es lines ∧
      (∀ ev ∈ es, Network.environment.Gives ev) ∧
      ∃ answer trials, Loopback.plainClient.transport.Sought "Loopback" answer trials es lines
        (Loopback.plainClient.transport.connect Network.environment "Loopback"
          (.start (Loopback.plainNetwork []))).1) ∧
    (Loopback.connected []).1.transport.isConnected = true ∧
    (Loopback.connected []).1.transport.connect Network.environment "Loopback"
        (Loopback.connected []).2 =
      ((.ok (), (Loopback.connected []).1.transport), (Loopback.connected []).2) := by
  have hbefore : Loopback.plainClient.transport.isConnected = false := by decide
  have hafter : (Loopback.connected []).1.transport.isConnected = true := by decide +kernel
  exact ⟨(connect_sought _ _ _).2 hbefore, hafter, (connect_sought _ _ _).1 hafter⟩

end Transport

end SecureStream
