import SecureStream.Proofs.Conversation

/-!
# Comparing what clients do

The same step is made in a world of one environment and in a world of another. Some comparison of
such steps may hold of single operations, and be kept when steps are put together. Then it holds of
everything that a client does.

* `Compares`: the comparison holds of log lines, and of operations that neither begin nor end a
  session;
* `Compares.connectRaw`, `Compares.send`, `Compares.recv`, `Compares.create`: so it holds of
  connections, of what is sent and received, and of pending sessions;
* `ComparesAll`, **`ComparesAll.answer`**: if it holds of the beginning and the end of sessions too,
  then it holds of all that a client may be asked.
-/

namespace SecureStream

variable {σ σ' α β ε ε' : Type}

namespace Op

/-- The operation is never answered with an interruption. -/
def IsSteady (op : Op) : Prop := ∀ a, op.isTransient a = false

/-- The operation neither begins nor ends a session. -/
def isOrdinary : Op → Bool
  | handshake _ _ _ | tlsShutdown _ => false
  | _ => true

end Op

/-- An operation that is not interrupted is made once. -/
theorem persist_eq_perform (E : Environment σ) {op : Op} (hop : op.IsSteady) :
    persist E op = perform E op :=
  funext fun w => Retry.run_eq_of_decisive (bounded_perform E op) (s := w) (hop _)

/-- A client with a session closes the session, and then goes on as one without. -/
theorem Client.close_of_some {E : Environment σ} {c : Client} {s : Session}
    (hc : c.session = some s) :
    c.close E = s.close E >>= fun _ => { c with session := none }.close E := by
  rw [close, hc]
  rfl

/-! ## Steps put together from their parts -/

/-! ## Comparisons -/

/-- A comparison of steps in two environments that is kept if steps are put together, and that holds
of logging and of operations that neither begin nor end a session. -/
structure Compares (E : Environment σ) (E' : Environment σ')
    (J : (α : Type) → Act σ α → Act σ' α → Prop) : Prop where
  pure : ∀ {α : Type} (a : α), J α (Pure.pure a) (Pure.pure a)
  bind : ∀ {α β : Type} {f : Act σ α} {f' : Act σ' α} {g : α → Act σ β} {g' : α → Act σ' β},
    J α f f' → (∀ a, J β (g a) (g' a)) → J β (f >>= g) (f' >>= g')
  record : ∀ lines, J Unit (modify (·.record lines)) (modify (·.record lines))
  persist : ∀ op, op.isOrdinary = true → J op.Answer (persist E op) (persist E' op)

namespace Compares

variable {E : Environment σ} {E' : Environment σ'}
  {J : (α : Type) → Act σ α → Act σ' α → Prop}

section

variable (h : Compares E E' J)
include h

theorem say (line : LogLine) : J Unit (SecureStream.say line) (SecureStream.say line) :=
  h.record [line]

theorem perform (op : Op) (hop : op.IsSteady) (hordinary : op.isOrdinary = true) :
    J op.Answer (SecureStream.perform E op) (SecureStream.perform E' op) := by
  rw [← persist_eq_perform E hop, ← persist_eq_perform E' hop]
  exact h.persist op hordinary

/-- Of two steps the second is made only if the first one succeeds. -/
theorem bindE {f : ExceptT ε (StateM (World σ)) α} {f' : ExceptT ε (StateM (World σ')) α}
    {g : α → ExceptT ε (StateM (World σ)) β} {g' : α → ExceptT ε (StateM (World σ')) β}
    (hf : J _ f.run f'.run) (hg : ∀ a, J _ (g a).run (g' a).run) :
    J _ (f >>= g).run (f' >>= g').run := by
  change J _ (f.run >>= ExceptT.bindCont g) (f'.run >>= ExceptT.bindCont g')
  refine h.bind hf fun r => ?_
  cases r with
  | error e => exact h.pure _
  | ok a => exact hg a

theorem lift {f : Act σ α} {f' : Act σ' α} (hf : J α f f') :
    J (Except ε α) (liftM f : ExceptT ε (StateM (World σ)) α).run
      (liftM f' : ExceptT ε (StateM (World σ')) α).run :=
  h.bind hf fun _ => h.pure _

theorem adapt {f : ExceptT ε (StateM (World σ)) α} {f' : ExceptT ε (StateM (World σ')) α}
    {g : ε → ε'} (hf : J _ f.run f'.run) : J _ (f.adapt g).run (f'.adapt g).run :=
  h.bind hf fun _ => h.pure _

/-! ### Connections -/

theorem connectTo (t : Transport) (address : SocketAddress) :
    J _ (t.connectTo E address).run (t.connectTo E' address).run := by
  unfold Transport.connectTo
  refine h.bindE (h.perform (.socket address) (fun _ => rfl) rfl) fun s => ?_
  refine h.bindE (h.perform (.noDelay s) (fun _ => rfl) rfl) fun _ => ?_
  refine h.bindE (h.perform (.keepAlive s Transport.keepAliveSeconds) (fun _ => rfl) rfl)
    fun _ => ?_
  refine h.bindE (h.perform (.connect s address t.limit) (fun _ => rfl) rfl) fun _ => ?_
  refine h.bindE (h.perform (.readLimit s t.limit) (fun _ => rfl) rfl) fun _ => ?_
  refine h.bindE (h.perform (.writeLimit s t.limit) (fun _ => rfl) rfl) fun _ => ?_
  exact h.pure _

theorem connectAny (t : Transport) (msg : String) (e : SystemError)
    (addresses : List SocketAddress) :
    J _ (t.connectAny E msg e addresses) (t.connectAny E' msg e addresses) := by
  induction addresses generalizing e with
  | nil => exact h.pure _
  | cons address rest ih =>
    unfold Transport.connectAny
    refine h.bind (h.say _) fun _ => h.bind (h.connectTo t address) fun r => ?_
    cases r with
    | ok s => exact h.pure _
    | error e' => exact h.bind (h.say _) fun _ => ih e'

theorem connectRaw (t : Transport) (msg : String) :
    J _ (t.connect E msg) (t.connect E' msg) := by
  unfold Transport.connect
  split
  · exact h.pure _
  · refine h.bind (h.perform (.resolve t.host t.port) (fun _ => rfl) rfl) fun a => ?_
    cases a with
    | error e => exact h.pure _
    | ok addresses =>
      refine h.bind (h.connectAny t msg _ addresses) fun r => ?_
      cases r <;> exact h.pure _

theorem duplicate (t : Transport) : J _ (t.duplicate E) (t.duplicate E') := by
  unfold Transport.duplicate
  cases t.stream with
  | none => exact h.pure _
  | some s =>
    refine h.bind (h.perform (.duplicate s) (fun _ => rfl) rfl) fun a => ?_
    cases a <;> exact h.pure _

theorem writeAllRaw (s : Socket) (bytes : List UInt8) :
    J _ (Transport.writeAll E s bytes) (Transport.writeAll E' s bytes) := by
  rw [Transport.writeAll, Transport.writeAll]
  split
  · exact h.pure _
  · refine h.bind (h.persist (.write s bytes) rfl) fun a => ?_
    cases a with
    | error e => exact h.pure _
    | ok last => exact writeAllRaw s (bytes.drop (last.val + 1))
termination_by bytes.length
decreasing_by
  have := last.isLt
  rw [List.length_drop]
  omega

theorem sendRaw (t : Transport) (bytes : List UInt8) :
    J _ (t.send E bytes) (t.send E' bytes) := by
  unfold Transport.send
  cases t.stream with
  | none => exact h.pure _
  | some s =>
    refine h.bind (h.writeAllRaw s bytes) fun r => ?_
    cases r with
    | error e => exact h.pure _
    | ok _ => exact h.bind (h.say _) fun _ => h.pure _

theorem readAllRaw (s : Socket) (room : Nat) :
    J _ (Transport.readAll E s room) (Transport.readAll E' s room) := by
  rw [Transport.readAll, Transport.readAll]
  split
  · exact h.pure _
  · refine h.bind (h.persist (.read s room) rfl) fun a => ?_
    cases a with
    | error e => exact h.pure _
    | ok bytes =>
      dsimp only
      split
      · exact h.pure _
      · next hne =>
        have hpos := List.length_pos_iff.mpr hne
        exact h.bind (readAllRaw s (room - bytes.val.length)) fun _ => h.pure _
termination_by room
decreasing_by omega

theorem recvRaw (t : Transport) (buffer : List UInt8) :
    J _ (t.recv E buffer) (t.recv E' buffer) := by
  unfold Transport.recv
  cases t.stream with
  | none => exact h.pure _
  | some s =>
    refine h.bind (h.readAllRaw s buffer.length) fun ⟨r, bytes⟩ => ?_
    cases r with
    | error e => exact h.pure _
    | ok _ => exact h.bind (h.say _) fun _ => h.pure _

theorem closeRaw (t : Transport) : J _ (t.close E) (t.close E') := by
  unfold Transport.close
  cases t.stream with
  | none => exact h.pure _
  | some s =>
    refine h.bind (h.perform (.shutdown s) (fun _ => rfl) rfl) fun a => ?_
    cases a with
    | ok _ => exact h.pure _
    | error e =>
      dsimp only
      split <;> exact h.pure _

/-! ### Sessions -/

theorem setUp (step : Tls.SetUp) :
    J _ (Context.setUp E step).run (Context.setUp E' step).run :=
  h.perform (.setUp step) (fun _ => rfl) rfl

theorem set (setting : Tls.Setting) :
    J _ (liftM (SecureStream.perform E (.set setting)) : ExceptT ε (StateM (World σ)) Unit).run
      (liftM (SecureStream.perform E' (.set setting)) : ExceptT ε (StateM (World σ')) Unit).run :=
  h.lift (h.perform (.set setting) (fun _ => rfl) rfl)

theorem build (trust : TrustStore) (priority : String) (minVersion : Option Version) :
    J _ (Context.build E trust priority minVersion).run
      (Context.build E' trust priority minVersion).run := by
  have hset (error : LibraryErrors → SetupError) (step : Tls.SetUp) :
      J _ (Context.setUpOr E error step).run (Context.setUpOr E' error step).run :=
    h.adapt (h.setUp step)
  unfold Context.build
  refine h.bindE (hset _ _) fun _ => h.bindE (hset _ _) fun _ => ?_
  cases minVersion with
  | none =>
    exact h.bindE (hset _ _) fun _ => h.bindE (h.set _) fun _ => h.bindE (h.set _) fun _ => h.pure _
  | some version =>
    exact h.bindE (hset _ _) fun _ => h.bindE (hset _ _) fun _ => h.bindE (h.set _) fun _ =>
      h.bindE (h.set _) fun _ => h.pure _

theorem settings (ctx : Context) (priority : Option String) :
    J _ (ctx.settings E priority).run (ctx.settings E' priority).run := by
  unfold Context.settings
  cases priority with
  | none => exact h.pure _
  | some p =>
    dsimp only
    split
    · exact h.pure _
    · exact h.build _ _ _

theorem init (config : Config) :
    J _ (Context.init E config).run (Context.init E' config).run := by
  unfold Context.init
  refine h.bindE (h.lift (h.perform .release (fun _ => rfl) rfl)) fun release => ?_
  refine h.bindE (h.pure (Context.checkRelease release)) fun _ => ?_
  refine h.bindE (h.lift (h.perform (.readFile config.caFile) (fun _ => rfl) rfl)) fun content => ?_
  refine h.bindE (h.pure (TrustStore.ofFile config.caFile content)) fun trust => ?_
  refine h.bindE (h.build trust config.priority config.minVersion) fun library => ?_
  exact h.bindE (h.lift (h.say _)) fun _ => h.pure _

theorem sessionSettings (ctx : Context) (priority : Option String) :
    J _ (Pending.settings E ctx priority).run (Pending.settings E' ctx priority).run := by
  rw [Pending.settings_eq, Pending.settings_eq]
  refine h.bind (h.settings ctx priority) fun r => ?_
  cases r with
  | ok library => exact h.pure _
  | error e => exact h.bind (h.record _) fun _ => h.pure _

theorem bindName (context : Tls.Context) (name : String) :
    J _ (Pending.bind E context name).run (Pending.bind E' context name).run := by
  unfold Pending.bind
  split
  · exact h.bindE (h.setUp _) fun _ => h.pure _
  · exact h.bindE (h.setUp _) fun _ => h.bindE (h.setUp _) fun _ => h.pure _

theorem create (ctx : Context) (name : String) (priority : Option String) :
    J _ (Pending.create E ctx name priority).run
      (Pending.create E' ctx name priority).run := by
  unfold Pending.create
  split
  · exact h.pure _
  · refine h.bindE (h.sessionSettings ctx priority) fun library => ?_
    refine h.bindE (h.adapt (h.setUp .newSession)) fun _ => ?_
    exact h.bindE (h.adapt (h.bindName library name)) fun _ => h.pure _

theorem writeAll (s : Socket) (bytes : List UInt8) :
    J _ (Session.writeAll E s bytes) (Session.writeAll E' s bytes) := by
  rw [Session.writeAll, Session.writeAll]
  split
  · exact h.pure _
  · refine h.bind (h.persist (.tlsWrite s bytes) rfl) fun a => ?_
    cases a with
    | error e => exact h.pure _
    | ok last => exact writeAll s (bytes.drop (last.val + 1))
termination_by bytes.length
decreasing_by
  have := last.isLt
  rw [List.length_drop]
  omega

theorem sendRecords (s : Session) (bytes : List UInt8) :
    J _ (s.send E bytes) (s.send E' bytes) := by
  unfold Session.send
  refine h.bind (h.writeAll s.socket bytes) fun r => ?_
  cases r with
  | error e => exact h.pure _
  | ok _ => exact h.bind (h.say _) fun _ => h.pure _

theorem readRecord (s : Socket) (room : Nat) :
    J _ (Session.readRecord E s room) (Session.readRecord E' s room) := by
  unfold Session.readRecord
  refine h.bind (h.persist (.tlsRead s room) rfl) fun a => ?_
  cases a with
  | ok bytes => exact h.pure _
  | error e =>
    dsimp only
    split <;> exact h.pure _

theorem readTwice (s : Socket) (room : Nat) :
    J _ (Session.readTwice E s room) (Session.readTwice E' s room) := by
  unfold Session.readTwice
  refine h.bind (h.readRecord s room) fun r => ?_
  cases r with
  | error e => exact h.pure _
  | ok first =>
    dsimp only
    split
    · refine h.bind (h.readRecord s _) fun r => ?_
      cases r <;> exact h.pure _
    · exact h.pure _

theorem recvRecords (s : Session) (buffer : List UInt8) :
    J _ (s.recv E buffer) (s.recv E' buffer) := by
  unfold Session.recv
  split
  · exact h.pure _
  · refine h.bind (h.readTwice s.socket buffer.length) fun ⟨r, bytes⟩ => ?_
    cases r with
    | error e => exact h.pure _
    | ok _ => exact h.bind (h.say _) fun _ => h.pure _

/-! ### Clients -/

theorem abort (c : Client) : J _ (c.abort E) (c.abort E') := by
  unfold Client.abort
  refine h.bind (h.closeRaw c.transport) fun ⟨r, t⟩ => ?_
  cases r with
  | ok _ => exact h.pure _
  | error e => exact h.bind (h.say _) fun _ => h.pure _

theorem send (c : Client) (bytes : List UInt8) : J _ (c.send E bytes) (c.send E' bytes) := by
  unfold Client.send
  cases c.session with
  | some s => exact h.sendRecords s bytes
  | none => exact h.bind (h.sendRaw c.transport bytes) fun _ => h.pure _

theorem recv (c : Client) (buffer : List UInt8) : J _ (c.recv E buffer) (c.recv E' buffer) := by
  unfold Client.recv
  cases c.session with
  | some s => exact h.recvRecords s buffer
  | none => exact h.bind (h.recvRaw c.transport buffer) fun _ => h.pure _

theorem closeUnsecured {c : Client} (hc : c.session = none) :
    J _ (c.close E) (c.close E') := by
  unfold Client.close
  rw [hc]
  exact h.bind (h.say _) fun _ => h.bind (h.closeRaw c.transport) fun _ => h.pure _

end

end Compares

/-- A comparison that holds of the beginning and the end of sessions too. -/
structure ComparesAll (E : Environment σ) (E' : Environment σ')
    (J : (α : Type) → Act σ α → Act σ' α → Prop) : Prop extends Compares E E' J where
  count : ∀ g : Nat → Nat, J Unit (modify fun w => { w with openSessions := g w.openSessions })
    (modify fun w => { w with openSessions := g w.openSessions })
  announce : ∀ s, J _ (SecureStream.perform E (.tlsShutdown s))
    (SecureStream.perform E' (.tlsShutdown s))
  attempts : ∀ socket request v,
    J _ (Pending.attempts E socket request v) (Pending.attempts E' socket request v)

namespace ComparesAll

variable {E : Environment σ} {E' : Environment σ'}
  {J : (α : Type) → Act σ α → Act σ' α → Prop}

section

variable (h : ComparesAll E E' J)
include h

theorem handshake (p : Pending) (socket : Socket) :
    J _ (p.handshake E socket) (p.handshake E' socket) := by
  rw [Pending.handshake_eq, Pending.handshake_eq]
  refine h.bind (h.attempts socket p.request p.verifier) fun ⟨o, v⟩ => ?_
  refine h.bind (h.count fun n => n + o.toBool.toNat) fun _ => ?_
  exact h.bind (h.record _) fun _ => h.pure _

theorem drop : J _ (Session.drop : Act σ Unit) (Session.drop : Act σ' Unit) :=
  h.count (· - 1)

theorem closeSession (s : Session) : J _ (s.close E) (s.close E') := by
  unfold Session.close
  refine h.bind (h.announce s.socket) fun a => ?_
  cases a <;> exact h.bind (h.say _) fun _ => h.drop

theorem establish (c : Client) (p : Pending) (msg : String) :
    J _ (c.establish E p msg) (c.establish E' p msg) := by
  unfold Client.establish
  refine h.bind (h.connectRaw _ msg) fun ⟨r, t⟩ => ?_
  cases r with
  | error e => exact h.pure _
  | ok _ =>
    refine h.bind (h.duplicate t) fun r => ?_
    cases r with
    | error e => exact h.bind (h.abort _) fun _ => h.pure _
    | ok socket =>
      refine h.bind (h.handshake p socket) fun r => ?_
      cases r with
      | error e => exact h.bind (h.abort _) fun _ => h.pure _
      | ok session => exact h.pure _

theorem connect (c : Client) (msg : String) : J _ (c.connect E msg) (c.connect E' msg) := by
  unfold Client.connect
  split
  · exact h.pure _
  · split
    · cases c.context with
      | none => exact h.pure _
      | some ctx =>
        refine h.bind (h.say _) fun _ => h.bind (h.create ctx _ _) fun r => ?_
        cases r with
        | error e => exact h.pure _
        | ok p => exact h.establish c p msg
    · exact h.bind (h.connectRaw c.transport msg) fun _ => h.pure _

theorem close (c : Client) : J _ (c.close E) (c.close E') := by
  cases hsession : c.session with
  | none => exact h.closeUnsecured hsession
  | some s =>
    rw [Client.close_of_some hsession, Client.close_of_some hsession]
    exact h.bind (h.closeSession s) fun _ => h.closeUnsecured rfl

/-- **The comparison holds of every call that a client answers.** -/
theorem answer (c : Client) (call : Call) : J _ (c.answer E call) (c.answer E' call) := by
  cases call with
  | connect msg => exact h.connect c msg
  | send bytes => exact h.bind (h.send c bytes) fun _ => h.pure _
  | recv buffer => exact h.bind (h.recv c buffer) fun _ => h.pure _
  | close => exact h.close c

end

end ComparesAll

end SecureStream
