import Mathlib.Logic.Relation
import SecureStream.Proofs.Simulation
import SecureStream.Proofs.Soundness

/-!
# How many sessions are open

A context counts its sessions: each from the handshake that establishes it until it is closed or
dropped. Its owners hold clients, pending sessions and sessions, and use them in any order, while
others use other contexts.

* `established`, `closed`: the sessions that were established and closed, as events tell;
* `Still`, `still_of_agree`: steps that do nothing to sessions;
* `Balanced`, `Client.balanced_answer`: the count keeps up with the events;
* `Holdings`, `Deal`: what owners hold, and what they may do;
* `Ledger`, **`Ledger.deal`**: the count is that of the sessions held, and every deal keeps it so;
* `Accounts`, **`accounts_of_deals`**: what the count tells, and what is logged of it in the end.
-/

namespace SecureStream

variable {σ α β : Type} {E : Environment σ}

/-! ## Sessions in the past -/

/-- A handshake that has succeeded establishes a session. -/
def Event.establishes : Event → Bool
  | ⟨.handshake _ _ _, a⟩ => a.outcome.toBool
  | _ => false

/-- The number of sessions that were established. -/
def established (es : List Event) : Nat := es.countP Event.establishes

/-- The number of sessions that were closed. -/
def closed (es : List Event) : Nat := es.countP (·.op.isTlsShutdown)

theorem established_append (es es' : List Event) :
    established (es ++ es') = established es + established es' := List.countP_append

theorem closed_append (es es' : List Event) : closed (es ++ es') = closed es + closed es' :=
  List.countP_append

theorem established_of_not_isHandshake {es : List Event} (h : ∀ ev ∈ es, ev.isHandshake = false) :
    established es = 0 := by
  refine List.countP_eq_zero.mpr fun ev hev => ?_
  obtain ⟨op, a⟩ := ev
  cases op with
  | handshake => exact nomatch h _ hev
  | _ => exact Bool.false_ne_true

theorem closed_of_not_isTlsShutdown {es : List Event}
    (h : ∀ ev ∈ es, ev.op.isTlsShutdown = false) : closed es = 0 := by
  refine List.countP_eq_zero.mpr fun ev hev => ?_
  rw [h ev hev]
  exact Bool.false_ne_true

theorem counts_of_past {w w' : World σ} {es : List Event} (h : w'.past = es.reverse ++ w.past) :
    established w'.past = established w.past + established es ∧
      closed w'.past = closed w.past + closed es := by
  rw [h, established_append, closed_append, established, established, closed, closed,
    List.countP_reverse, List.countP_reverse]
  exact ⟨Nat.add_comm _ _, Nat.add_comm _ _⟩

/-! ## Steps that do nothing to sessions -/

/-- No session is established or closed, and the count stays. -/
structure Still (w w' : World σ) : Prop where
  openSessions : w'.openSessions = w.openSessions
  established : established w'.past = established w.past
  closed : closed w'.past = closed w.past

theorem Still.trans {w₁ w₂ w₃ : World σ} (h : Still w₁ w₂) (h' : Still w₂ w₃) : Still w₁ w₃ :=
  ⟨h'.openSessions.trans h.openSessions, h'.established.trans h.established,
    h'.closed.trans h.closed⟩

theorem still_perform {op : Op} (hop : op.isOrdinary = true) (w : World σ) :
    Still w (perform E op w).2 := by
  refine ⟨rfl, ?_, ?_⟩
  · cases op with
    | handshake => exact nomatch hop
    | _ => rfl
  · cases op with
    | tlsShutdown => exact nomatch hop
    | _ => rfl

theorem still_persist {op : Op} (hop : op.isOrdinary = true) (w : World σ) :
    Still w (persist E op w).2 :=
  Retry.run_induction (P := fun w r => Still w r.2) (bounded_perform E op)
    (fun w _ => still_perform hop w) (fun w _ _ h => (still_perform hop w).trans h) w

/-- The worlds are one world, and it is still compared to the first one. -/
def StillSince (w₀ w w' : World σ) : Prop := w' = w ∧ Still w₀ w

theorem mirrors_stillSince (E : Environment σ) (w₀ : World σ) : Mirrors E E (StillSince w₀) where
  record lines w _ := by
    rintro ⟨rfl, h⟩
    exact ⟨rfl, h.trans ⟨rfl, rfl, rfl⟩⟩
  persist op hop w _ := by
    rintro ⟨rfl, h⟩
    exact ⟨rfl, rfl, h.trans (still_persist hop _)⟩

/-- Whatever is put together from log lines and ordinary operations does nothing to sessions. -/
theorem still_of_agree {f : Act σ α} (h : ∀ J, Compares E E J → J _ f f) (w : World σ) :
    Still w (f w).2 :=
  (h _ (mirrors_stillSince E w).compares w w ⟨rfl, rfl, rfl, rfl⟩).2.2

/-! ## The count keeps up -/

/-- In between, the count has kept up with the sessions that were established and closed. -/
def Balanced (w w' : World σ) : Prop :=
  w'.openSessions + closed w'.past + established w.past =
    w.openSessions + closed w.past + established w'.past

theorem Still.balanced {w w' : World σ} (h : Still w w') : Balanced w w' := by
  rw [Balanced, h.openSessions, h.established, h.closed]

theorem Balanced.trans {w₁ w₂ w₃ : World σ} (h : Balanced w₁ w₂) (h' : Balanced w₂ w₃) :
    Balanced w₁ w₃ := by
  unfold Balanced at *
  omega

/-- The count keeps up with the step, from any world. -/
def KeepsUp (f : Act σ α) : Prop := ∀ w, Balanced w (f w).2

namespace KeepsUp

theorem pure (a : α) : KeepsUp (Pure.pure a : Act σ α) := fun _ => rfl

theorem bind {f : Act σ α} {g : α → Act σ β} (hf : KeepsUp f) (hg : ∀ a, KeepsUp (g a)) :
    KeepsUp (f >>= g) := fun w => (hf w).trans (hg (f w).1 (f w).2)

theorem of_agree {f : Act σ α} (h : ∀ J, Compares E E J → J _ f f) : KeepsUp f :=
  fun w => (still_of_agree h w).balanced

end KeepsUp

/-- A session was established or not, and nothing else has become of sessions. -/
structure Gained (w w' : World σ) (n : Nat) : Prop where
  openSessions : w'.openSessions = w.openSessions + n
  established : SecureStream.established w'.past = SecureStream.established w.past + n
  closed : SecureStream.closed w'.past = SecureStream.closed w.past

theorem Gained.balanced {w w' : World σ} {n : Nat} (h : Gained w w' n) : Balanced w w' := by
  rw [Balanced, h.openSessions, h.established, h.closed]
  omega

/-- Attempts at a handshake have established a session if the last one has succeeded. It is not
counted yet. -/
structure Tallied (w : World σ) (r : Except Tls.Failure Tls.Negotiated × World σ) : Prop where
  openSessions : r.2.openSessions = w.openSessions
  established : SecureStream.established r.2.past =
    SecureStream.established w.past + r.1.toBool.toNat
  closed : SecureStream.closed r.2.past = SecureStream.closed w.past

namespace Pending

variable {s : Socket} {request : Tls.Request}

theorem tallied_attemptHandshake (x : World σ × Verifier) :
    Tallied x.1 ((attemptHandshake E s request x).1, (attemptHandshake E s request x).2.1) := by
  refine ⟨rfl, ?_, rfl⟩
  change List.countP _ (_ :: _) = _
  rw [List.countP_cons]
  change _ + (if (attemptHandshake E s request x).1.toBool = true then 1 else 0) = _
  cases (attemptHandshake E s request x).1 <;> rfl

/-- An attempt is only made again if it has failed, and then it has established nothing. -/
theorem tallied_of_interrupted {x : World σ × Verifier}
    {r : Except Tls.Failure Tls.Negotiated × World σ}
    (hx : isInterrupted (attemptHandshake E s request x).1 = true)
    (hr : Tallied (attemptHandshake E s request x).2.1 r) : Tallied x.1 r := by
  have hfirst : Tallied x.1 (_, (attemptHandshake E s request x).2.1) := tallied_attemptHandshake x
  have hfailed : (attemptHandshake E s request x).1.toBool = false := by
    cases ho : (attemptHandshake E s request x).1 with
    | error e => rfl
    | ok negotiated =>
      rw [ho] at hx
      exact nomatch hx
  refine ⟨hr.openSessions.trans hfirst.openSessions, ?_, hr.closed.trans hfirst.closed⟩
  rw [hr.established, hfirst.established, hfailed]
  rfl

theorem tallied_attempts (s : Socket) (request : Tls.Request) (v : Verifier) (w : World σ) :
    Tallied w ((attempts E s request v w).1.1, (attempts E s request v w).2) :=
  Retry.run_induction (P := fun (x : World σ × Verifier) r => Tallied x.1 (r.1, r.2.1))
    (bounded_attemptHandshake E s request) (fun x _ => tallied_attemptHandshake x)
    (fun _ _ => tallied_of_interrupted) (w, v)

theorem gained_handshake (p : Pending) (s : Socket) (w : World σ) :
    Gained w (p.handshake E s w).2 (p.handshake E s w).1.toBool.toNat := by
  obtain ⟨hopen, hestablished, hclosed⟩ := tallied_attempts (E := E) s p.request p.verifier w
  rcases hrun : attempts E s p.request p.verifier w with ⟨⟨o, v⟩, w₁⟩
  rw [hrun] at hopen hestablished hclosed
  rw [handshake_eq, bind_of_eq hrun]
  cases o with
  | error e => exact ⟨hopen, hestablished, hclosed⟩
  | ok negotiated => exact ⟨congrArg (· + 1) hopen, hestablished, hclosed⟩

end Pending

theorem Session.balanced_close (s : Session) {w : World σ} (hw : 0 < w.openSessions) :
    Balanced w (s.close E w).2 := by
  rcases hrun : perform E (.tlsShutdown s.socket) w with ⟨a, w₁⟩
  obtain rfl : (perform E (.tlsShutdown s.socket) w).2 = w₁ := congrArg Prod.snd hrun
  have hclosed : closed (perform E (.tlsShutdown s.socket) w).2.past = closed w.past + 1 :=
    List.countP_cons_of_pos rfl
  have hdrop (line : LogLine) : Balanced w
      ((SecureStream.say line >>= fun _ => drop) (perform E (.tlsShutdown s.socket) w).2).2 := by
    change w.openSessions - 1 + closed (perform E (.tlsShutdown s.socket) w).2.past +
      established w.past = w.openSessions + closed w.past + established w.past
    rw [hclosed]
    omega
  unfold close
  rw [bind_of_eq hrun]
  cases a with
  | ok _ => exact hdrop _
  | error e => exact hdrop _

namespace Client

variable {c : Client}

theorem keepsUp_establish (c : Client) (p : Pending) (msg : String) :
    KeepsUp (c.establish E p msg) := by
  unfold establish
  refine .bind (.of_agree fun _ h => h.connectRaw _ msg) fun ⟨r, t⟩ => ?_
  cases r with
  | error e => exact .pure _
  | ok _ =>
    refine .bind (.of_agree fun _ h => h.duplicate t) fun r => ?_
    cases r with
    | error e => exact .bind (.of_agree fun _ h => h.abort _) fun _ => .pure _
    | ok socket =>
      refine .bind (fun w => (p.gained_handshake socket w).balanced) fun r => ?_
      cases r with
      | error e => exact .bind (.of_agree fun _ h => h.abort _) fun _ => .pure _
      | ok session => exact .pure _

theorem keepsUp_connect (c : Client) (msg : String) : KeepsUp (c.connect E msg) := by
  unfold connect
  split
  · exact .pure _
  · split
    · cases c.context with
      | none => exact .pure _
      | some ctx =>
        refine .bind (.of_agree fun J (h : Compares E E J) => h.say _) fun _ => ?_
        refine .bind (.of_agree fun _ h => h.create ctx _ _) fun r => ?_
        cases r with
        | error e => exact .pure _
        | ok p => exact c.keepsUp_establish p msg
    · exact .bind (.of_agree fun _ h => h.connectRaw c.transport msg) fun _ => .pure _

/-- The number of sessions that the client holds. -/
def held (c : Client) : Nat := if c.session.isSome then 1 else 0

theorem balanced_close {w : World σ} (hc : c.held ≤ w.openSessions) :
    Balanced w (c.close E w).2 := by
  have hrest (c : Client) (hc : c.session = none) : KeepsUp (c.close E) :=
    .of_agree fun _ h => h.closeUnsecured hc
  cases hsession : c.session with
  | none => exact hrest c hsession w
  | some s =>
    rw [held, hsession] at hc
    rw [close_of_some hsession]
    exact (s.balanced_close hc).trans (hrest { c with session := none } rfl _)

/-- **Whatever is asked of a client, the count keeps up.** -/
theorem balanced_answer {call : Call} {w : World σ} (hc : c.held ≤ w.openSessions) :
    Balanced w (c.answer E call w).2 := by
  cases call with
  | connect msg => exact c.keepsUp_connect msg w
  | send bytes => exact KeepsUp.of_agree (fun _ h => h.send c bytes) w
  | recv buffer => exact KeepsUp.of_agree (fun _ h => h.recv c buffer) w
  | close => exact balanced_close hc

end Client

/-! ## What the events of a call tell -/

/-- Operations of a kind that neither handshakes nor announcements of an end are of do nothing to
sessions. -/
theorem tally_of {p : Op → Prop} (hp : ∀ s request v, ¬ p (.handshake s request v))
    (hp' : ∀ s, ¬ p (.tlsShutdown s)) {es : List Event} (h : ∀ ev ∈ es, p ev.op) :
    established es = 0 ∧ closed es = 0 :=
  ⟨established_of_not_isHandshake (not_isHandshake_of hp h),
    closed_of_not_isTlsShutdown (not_isTlsShutdown_of hp' h)⟩

/-- Of the attempts at a handshake only the last one may establish a session. -/
theorem Pending.Attempts.established_eq {s : Socket} {request : Tls.Request} {v v' : Verifier}
    {es : List Event} {o : Except Tls.Failure Tls.Negotiated}
    (h : Attempts s request v es v' o) : established es = o.toBool.toNat := by
  induction h with
  | @decided v a _ =>
    obtain ⟨calls, o⟩ := a
    cases o <;> rfl
  | @interrupted v v' es o a ha _ ih =>
    obtain ⟨calls, o₁⟩ := a
    cases o₁ with
    | error e =>
      rw [← ih]
      exact List.countP_cons_of_neg Bool.false_ne_true
    | ok negotiated => exact nomatch ha

namespace Client

variable {c : Client}

/-- To open a client is to establish the session that it then has. -/
theorem Opening.tally {ctx : Context} {es : List Event} {r : Except ConnectionError Unit × Client}
    (h : Opening c ctx es r) (hc : c.session = none) :
    established es = r.2.held ∧ closed es = 0 := by
  have hsetUp {es : List Event} (hes : ∀ ev ∈ es, ev.op.IsSetUp) : established es = 0 :=
    (tally_of (p := Op.IsSetUp) (fun _ _ _ h => h) (fun _ h => h) hes).1
  have hreached {es : List Event} {o : Except TransportError Socket}
      (h : Transport.Reached (c.carriedBy none).transport es o) : established es = 0 :=
    (tally_of (p := Op.IsConnecting) (fun _ _ _ h => h) (fun _ h => h) h.isConnecting).1
  have hheld : c.held = 0 := by rw [held, hc]; rfl
  refine ⟨?_, closed_of_not_isTlsShutdown h.not_isTlsShutdown⟩
  cases h with
  | unmade hes => exact (hsetUp hes).trans hheld.symm
  | unreached hes h =>
    rw [established_append, hsetUp hes, hreached h]
    exact hheld.symm
  | undoubled hes h =>
    rw [established_append, established_append, hsetUp hes, hreached h]
    exact hheld.symm
  | @refused es es' s second request es'' v e a hes h ha =>
    have htail : established (⟨.duplicate s, .ok second⟩ :: (es'' ++ [⟨.shutdown s, a⟩])) = 0 := by
      change established ([_] ++ (es'' ++ [_])) = 0
      rw [established_append, established_append, ha.established_eq]
      rfl
    rw [established_append, established_append, hsetUp hes, hreached h, htail]
    exact hheld.symm
  | @secured es es' s second request es'' v n hes h ha =>
    have htail : established (⟨.duplicate s, .ok second⟩ :: es'') = 1 := by
      change established ([_] ++ es'') = 1
      rw [established_append, ha.established_eq]
      rfl
    rw [established_append, established_append, hsetUp hes, hreached h, htail]
    rfl

/-- A call establishes the session that the client gains by it, and closes the one that it loses. -/
theorem Move.tally {call : Call} {es : List Event} {r : call.Reply × Client}
    (h : Move c call es r) : established es + c.held = r.2.held + closed es := by
  cases h with
  | openAlready | unsent | unreceived | closeNothing => exact Nat.add_comm _ _
  | opening _ _ hsession _ h =>
    obtain ⟨hestablished, hclosed⟩ := h.opening.tally hsession
    have hheld : c.held = 0 := by rw [held, hsession]; rfl
    rw [hestablished, hclosed, hheld]
  | connecting _ _ h =>
    obtain ⟨hestablished, hclosed⟩ :=
      tally_of (p := Op.IsConnecting) (fun _ _ _ h => h) (fun _ h => h) h.isConnecting
    rw [hestablished, hclosed]
    exact Nat.add_comm _ _
  | @records _ s _ _ _ _ h =>
    obtain ⟨hestablished, hclosed⟩ :=
      tally_of (p := Op.IsRecord s.socket) (fun _ _ _ h => h) (fun _ h => h) h
    rw [hestablished, hclosed]
    exact Nat.add_comm _ _
  | raw _ _ _ h =>
    obtain ⟨hestablished, hclosed⟩ :=
      tally_of (p := fun op => op.isRaw = true) (fun _ _ _ h => nomatch h) (fun _ h => nomatch h) h
    rw [hestablished, hclosed]
    exact Nat.add_comm _ _
  | closeSession hsession =>
    rw [held, hsession]
    rfl
  | closeTransport hsession =>
    rw [held, hsession]
    rfl

end Client

/-! ## What owners hold, and what they do -/

/-- What the owners of a context hold: clients, pending sessions, and sessions that are not of
clients. It is known how many sessions they have dropped without closing them. -/
structure Holdings where
  clients : List Client
  pendings : List Pending
  sessions : List Session
  dropped : Nat

namespace Holdings

/-- Nothing is held. -/
def none : Holdings := ⟨[], [], [], 0⟩

/-- The number of sessions that are held, by a client or not. Neither pending sessions nor clients
without a session count. -/
def openSessions (h : Holdings) : Nat := h.clients.countP (·.session.isSome) + h.sessions.length

variable {clients before after : List Client} {pendings : List Pending}
  {sessions before' after' : List Session} {n : Nat}

theorem openSessions_client (c : Client) :
    openSessions ⟨before ++ c :: after, pendings, sessions, n⟩ =
      openSessions ⟨before ++ after, pendings, sessions, n⟩ + c.held := by
  simp only [openSessions, Client.held, List.countP_append, List.countP_cons]
  omega

theorem openSessions_session (s : Session) :
    openSessions ⟨clients, pendings, before' ++ s :: after', n⟩ =
      openSessions ⟨clients, pendings, before' ++ after', n⟩ + 1 := by
  simp only [openSessions, List.length_append, List.length_cons]
  omega

end Holdings

/-- One thing that an owner may do, or somebody else, in a world with some holdings. -/
inductive Deal (E : Environment σ) (ctx : Context) :
    Holdings × World σ → Holdings × World σ → Prop
  /-- Make a client, with the context or with none. -/
  | make {h w endpoint context c} : context = some ctx ∨ context = Option.none →
    Client.new endpoint context = .ok c →
    Deal E ctx (h, w) ({ h with clients := c :: h.clients }, w)
  /-- Ask something of a client. -/
  | ask {before c after pendings sessions n w} (call : Call) :
    Deal E ctx (⟨before ++ c :: after, pendings, sessions, n⟩, w)
      (⟨before ++ (c.answer E call w).1.2 :: after, pendings, sessions, n⟩, (c.answer E call w).2)
  /-- Drop a client. -/
  | forget {before c after pendings sessions n w} :
    Deal E ctx (⟨before ++ c :: after, pendings, sessions, n⟩, w)
      (⟨before ++ after, pendings, sessions, n + c.held⟩, (c.drop w).2)
  /-- Try to make a pending session. -/
  | create {clients pendings sessions n w} (name : String) (priority : Option String) :
    Deal E ctx (⟨clients, pendings, sessions, n⟩, w)
      (⟨clients, ((Pending.create E ctx name priority).run w).1.toOption.toList ++ pendings,
        sessions, n⟩, ((Pending.create E ctx name priority).run w).2)
  /-- Drop a pending session. -/
  | giveUp {clients before p after sessions n w} :
    Deal E ctx (⟨clients, before ++ p :: after, sessions, n⟩, w)
      (⟨clients, before ++ after, sessions, n⟩, w)
  /-- Try the handshake of a pending session over a connection. -/
  | handshake {clients before p after sessions n w} (s : Socket) :
    Deal E ctx (⟨clients, before ++ p :: after, sessions, n⟩, w)
      (⟨clients, before ++ after, (p.handshake E s w).1.toOption.toList ++ sessions, n⟩,
        (p.handshake E s w).2)
  /-- Send over a session. -/
  | send {h s w} (bytes : List UInt8) : s ∈ h.sessions → Deal E ctx (h, w) (h, (s.send E bytes w).2)
  /-- Receive over a session. -/
  | recv {h s w} (buffer : List UInt8) : s ∈ h.sessions →
    Deal E ctx (h, w) (h, (s.recv E buffer w).2)
  /-- Close a session. -/
  | close {clients pendings before s after n w} :
    Deal E ctx (⟨clients, pendings, before ++ s :: after, n⟩, w)
      (⟨clients, pendings, before ++ after, n⟩, (s.close E w).2)
  /-- Drop a session without closing it. -/
  | drop {clients pendings before s after n w} :
    Deal E ctx (⟨clients, pendings, before ++ s :: after, n⟩, w)
      (⟨clients, pendings, before ++ after, n + 1⟩, (Session.drop w).2)
  /-- Give the context up. -/
  | exit {h w} : Deal E ctx (h, w) (h, (Context.exit w).2)
  /-- Something is done with another context, or with none. -/
  | elsewhere {h w} (state : σ) (lines : List LogLine) :
    Deal E ctx (h, w) (h, { w with state }.record lines)

/-! ## The ledger -/

/-- What is logged when a context is given up while a number of sessions is open. -/
def Context.farewell (openSessions : Nat) : List LogLine :=
  (if 0 < openSessions then
    [.warn ("TLS context released with " ++ toString openSessions ++ " session(s) still open")]
  else []) ++ [.debug "TLS context released"]

theorem Context.exit_eq (w : World σ) :
    (Context.exit w).2 = w.record (farewell w.openSessions) := by
  unfold exit farewell
  by_cases hopen : 0 < w.openSessions
  · change ((if 0 < w.openSessions then _ else _ : Act σ Unit) w).2 = _
    rw [if_pos hopen, if_pos hopen]
    rfl
  · change ((if 0 < w.openSessions then _ else _ : Act σ Unit) w).2 = _
    rw [if_neg hopen, if_neg hopen]
    rfl

/-- The count is that of the sessions held, and these are the sessions that were established and
neither closed nor dropped. Every session that has gone was counted until then, so the count was not
zero. -/
structure Ledger (h : Holdings) (w : World σ) : Prop where
  coherent : ∀ c ∈ h.clients, c.Coherent
  held : w.openSessions = h.openSessions
  balance : established w.past = w.openSessions + closed w.past + h.dropped

namespace Ledger

variable {ctx : Context} {h h' : Holdings} {w w' : World σ}

/-- If the count keeps up with the events, and the events with what is held, then the count keeps up
with what is held. -/
theorem step (hledger : Ledger h w) (hcoherent : ∀ c ∈ h'.clients, c.Coherent)
    (hbalanced : Balanced w w') (htally : established w'.past + closed w.past + h.openSessions =
      established w.past + closed w'.past + h'.openSessions)
    (hdropped : h'.dropped = h.dropped) : Ledger h' w' := by
  obtain ⟨-, hheld, hbalance⟩ := hledger
  unfold Balanced at hbalanced
  refine ⟨hcoherent, ?_, ?_⟩ <;> omega

theorem still (hledger : Ledger h w) (hcoherent : ∀ c ∈ h'.clients, c.Coherent)
    (hstill : Still w w') (hopen : h'.openSessions = h.openSessions)
    (hdropped : h'.dropped = h.dropped) : Ledger h' w' := by
  refine hledger.step hcoherent hstill.balanced ?_ hdropped
  rw [hstill.established, hstill.closed, hopen]

/-- **Every deal keeps the ledger.** -/
theorem deal (hledger : Ledger h w) (hdeal : Deal E ctx (h, w) (h', w')) : Ledger h' w' := by
  have hheld := hledger.held
  have hbalance := hledger.balance
  cases hdeal with
  | @make _ _ _ _ c _ hnew =>
    have hnew' := Client.isNew_of_new hnew
    refine hledger.still (List.forall_mem_cons.mpr ⟨hnew'.coherent, hledger.coherent⟩)
      ⟨rfl, rfl, rfl⟩ ?_ rfl
    have hopen : Holdings.openSessions ⟨[] ++ c :: h.clients, h.pendings, h.sessions, h.dropped⟩ =
        Holdings.openSessions ⟨[] ++ h.clients, h.pendings, h.sessions, h.dropped⟩ + c.held :=
      Holdings.openSessions_client c
    rw [Client.held, hnew'.session_eq] at hopen
    exact hopen
  | @ask before c after _ _ _ _ call =>
    obtain ⟨hbefore, hrest⟩ := List.forall_mem_append.mp hledger.coherent
    obtain ⟨hc, hafter⟩ := List.forall_mem_cons.mp hrest
    -- The count keeps up with the events, and the events with what the client holds.
    obtain ⟨es, _, hgains, -, hmove⟩ := Client.emits_answer (E := E) hc call w
    obtain ⟨hestablished, hclosed⟩ := counts_of_past hgains.past
    rw [Holdings.openSessions_client] at hheld
    refine hledger.step ?_ (Client.balanced_answer (by omega)) ?_ rfl
    · exact List.forall_mem_append.mpr
        ⟨hbefore, List.forall_mem_cons.mpr ⟨hmove.coherent hc, hafter⟩⟩
    · have htally := hmove.tally
      rw [hestablished, hclosed, Holdings.openSessions_client, Holdings.openSessions_client]
      omega
  | @forget before c after pendings sessions n _ =>
    have hpast : (c.drop w).2.past = w.past ∧
        (c.drop w).2.openSessions = w.openSessions - c.held := by
      rw [Client.held]
      unfold Client.drop
      cases c.session <;> exact ⟨rfl, rfl⟩
    obtain ⟨hbefore, hrest⟩ := List.forall_mem_append.mp hledger.coherent
    rw [Holdings.openSessions_client] at hheld
    refine ⟨List.forall_mem_append.mpr ⟨hbefore, (List.forall_mem_cons.mp hrest).2⟩, ?_, ?_⟩
    · change _ = Holdings.openSessions ⟨before ++ after, pendings, sessions, n⟩
      rw [hpast.2, hheld]
      omega
    · change _ = _ + _ + (n + c.held)
      rw [hpast.1, hpast.2, hbalance]
      dsimp only
      omega
  | create name priority =>
    exact hledger.still hledger.coherent
      (still_of_agree (fun _ hR => hR.create ctx name priority) w) rfl rfl
  | giveUp => exact hledger.still hledger.coherent ⟨rfl, rfl, rfl⟩ rfl rfl
  | @handshake clients before p after sessions n _ s =>
    have hgained := p.gained_handshake (E := E) s w
    refine hledger.step hledger.coherent hgained.balanced ?_ rfl
    rw [hgained.established, hgained.closed]
    cases (p.handshake E s w).1 with
    | error e => rfl
    | ok session =>
      simp only [Holdings.openSessions, Except.toBool, Except.toOption, Option.toList,
        Bool.toNat_true, List.length_append, List.length_cons, List.length_nil]
      omega
  | @send _ s _ bytes =>
    exact hledger.still hledger.coherent
      (still_of_agree (fun _ hR => hR.sendRecords s bytes) w) rfl rfl
  | @recv _ s _ buffer =>
    exact hledger.still hledger.coherent
      (still_of_agree (fun _ hR => hR.recvRecords s buffer) w) rfl rfl
  | @close _ _ before s after =>
    obtain ⟨es, _, hgains, -, a, rfl⟩ := s.emits_close (E := E) w
    obtain ⟨hestablished, hclosed⟩ := counts_of_past hgains.past
    rw [Holdings.openSessions_session] at hheld
    refine hledger.step hledger.coherent (s.balanced_close (by omega)) ?_ rfl
    rw [hestablished, hclosed, Holdings.openSessions_session]
    change _ + 0 + _ + _ = _ + (_ + 1) + _
    omega
  | @drop _ _ before s after =>
    rw [Holdings.openSessions_session] at hheld
    refine ⟨hledger.coherent, ?_, ?_⟩
    · change w.openSessions - 1 = _
      rw [hheld]
      rfl
    · change established w.past = w.openSessions - 1 + closed w.past + (_ + 1)
      rw [hbalance]
      dsimp only
      omega
  | exit =>
    rw [Context.exit_eq]
    exact hledger.still hledger.coherent ⟨rfl, rfl, rfl⟩ rfl rfl
  | elsewhere => exact hledger.still hledger.coherent ⟨rfl, rfl, rfl⟩ rfl rfl

end Ledger

theorem Deal.openSessions_le {ctx : Context} {h h' : Holdings} {w w' : World σ}
    (hdeal : Deal E ctx (h, w) (h', w')) : h.openSessions ≤ h'.openSessions + 1 := by
  have hheld (c : Client) : c.held ≤ 1 := by
    unfold Client.held
    split <;> omega
  cases hdeal with
  | @make _ _ _ _ c =>
    simp only [Holdings.openSessions, List.countP_cons]
    omega
  | @ask before c after =>
    have hc := hheld c
    rw [Holdings.openSessions_client, Holdings.openSessions_client]
    omega
  | @forget before c after =>
    rw [Holdings.openSessions_client]
    exact Nat.add_le_add_left (hheld c) _
  | handshake s =>
    simp only [Holdings.openSessions, List.length_append]
    omega
  | close | drop => exact Nat.le_of_eq (Holdings.openSessions_session _)
  | _ => exact Nat.le_succ _

/-! ## All deals -/

/-- What the count tells: how many sessions are held, which are those that were established and
neither closed nor dropped. It is not taken below zero: a deal that costs a session finds it
counted. What is logged when the context is given up says how many sessions are held, if there are
any. -/
structure Accounts (E : Environment σ) (ctx : Context) (h : Holdings) (w : World σ) : Prop where
  held : w.openSessions = h.openSessions
  balance : established w.trace = w.openSessions + closed w.trace + h.dropped
  released : ∀ h' w', Deal E ctx (h, w) (h', w') → h'.openSessions < h.openSessions →
    w'.openSessions + 1 = w.openSessions
  exit : (Context.exit w).2.log = w.log ++ Context.farewell h.openSessions

/-- **Whatever the owners of a context do, and others elsewhere, it knows how many of its sessions
are open.** -/
theorem accounts_of_deals {config : Config} {ctx : Context} {state : σ} {w₀ w : World σ}
    {h : Holdings} (hinit : (Context.init E config).run (.start state) = (.ok ctx, w₀))
    (hdeals : Relation.ReflTransGen (Deal E ctx) (.none, w₀) (h, w)) : Accounts E ctx h w := by
  have hstart : Ledger .none w₀ := by
    have hstill := still_of_agree (fun _ hR => hR.init config) (E := E) (.start state)
    rw [hinit] at hstill
    exact ⟨fun _ hc => absurd hc List.not_mem_nil, hstill.openSessions,
      by rw [hstill.established, hstill.closed, hstill.openSessions]; rfl⟩
  have hledger : Ledger h w := by
    have hall : ∀ x, Relation.ReflTransGen (Deal E ctx) (.none, w₀) x → Ledger x.1 x.2 := by
      intro x hx
      induction hx with
      | refl => exact hstart
      | tail _ hdeal ih => exact ih.deal hdeal
    exact hall _ hdeals
  refine ⟨hledger.held, ?_, fun h' w' hdeal hlt => ?_, ?_⟩
  · rw [World.trace, established, closed, List.countP_reverse, List.countP_reverse]
    exact hledger.balance
  · have hheld := hledger.held
    have hheld' := (hledger.deal hdeal).held
    have hle := hdeal.openSessions_le
    omega
  · rw [Context.exit_eq, hledger.held, World.log, World.log, World.record, List.reverse_append,
      List.reverse_reverse]

/-- A client of the peer on this machine, with the context that was made. -/
def Peer.Loopback.member : Client := ⟨endpoint, some made, endpoint.transport, none⟩

theorem accounts_of_deals_loopback : ∃ h w,
    (Context.init Peer.Network.environment Peer.Loopback.config).run
        (.start (Peer.Loopback.bundled [])) =
      (.ok Peer.Loopback.made, Peer.Loopback.initialised.2) ∧
    Relation.ReflTransGen (Deal Peer.Network.environment Peer.Loopback.made)
      (.none, Peer.Loopback.initialised.2) (h, w) ∧
    Accounts Peer.Network.environment Peer.Loopback.made h w ∧ w.openSessions = 1 := by
  have hinit : (Context.init Peer.Network.environment Peer.Loopback.config).run
      (.start (Peer.Loopback.bundled [])) =
    (.ok Peer.Loopback.made, Peer.Loopback.initialised.2) := Peer.Loopback.initialised_eq
  have hnew : Client.new Peer.Loopback.endpoint (some Peer.Loopback.made) =
      .ok Peer.Loopback.member := rfl
  have hmake (w : World Peer.Network) : Deal Peer.Network.environment Peer.Loopback.made
      (.none, w) (⟨[] ++ Peer.Loopback.member :: [], [], [], 0⟩, w) := .make (.inl rfl) hnew
  have hdeals := (Relation.ReflTransGen.single (hmake Peer.Loopback.initialised.2)).tail
    (.ask (.connect "first"))
  exact ⟨_, _, hinit, hdeals, accounts_of_deals hinit hdeals, by decide +kernel⟩

end SecureStream
