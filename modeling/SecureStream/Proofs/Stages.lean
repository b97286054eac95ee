import SecureStream.Proofs.Halting

/-!
# The stages of opening

A client over TLS opens in stages, and each of its operations belongs to one of them.

* `Stage`, `Op.place`: the stages in order, and the place of an operation among them;
* `Event.refusal?`: what makes a stage fail, and the code of the error;
* `Covers`, `Laid`: events stage by stage, without a gap;
* `Calm`, `SetUps.covers`, `Transport.Reached.stages`, `Pending.Attempts.covers`: the events of each
  stage.
-/

namespace SecureStream

/-! ## Stages and what makes them fail -/

/-- The stages of opening a client over TLS. In the last one a connection is given up again. -/
inductive Stage
  | openCheck
  | name
  | settings
  | identity
  | resolution
  | connection
  | duplication
  | handshake
  | cleanUp
  deriving DecidableEq

/-- The place of a stage in their order. -/
def Stage.place : Stage → Nat
  | openCheck => 1
  | name => 2
  | settings => 3
  | identity => 4
  | resolution => 5
  | connection => 6
  | duplication => 7
  | handshake => 8
  | cleanUp => 9

namespace Tls.SetUp

/-- The stage in which a step is made. -/
def stage : SetUp → Stage
  | askName _ | expectHost _ | expectIp _ => .identity
  | _ => .settings

/-- The code of the error if a step is refused. -/
def code : SetUp → ErrorCode
  | ciphers _ => .httpsInvalidRequest
  | askName _ | expectHost _ | expectIp _ => .httpsSniError
  | _ => .tlsInitFailed

end Tls.SetUp

/-- The place of an operation among the stages, or zero if it belongs to none. -/
def Op.place : Op → Nat
  | setUp step => step.stage.place
  | set _ => Stage.settings.place
  | resolve _ _ => Stage.resolution.place
  | socket _ | noDelay _ | keepAlive _ _ | connect _ _ _ | readLimit _ _ | writeLimit _ _ =>
    Stage.connection.place
  | duplicate _ => Stage.duplication.place
  | handshake _ _ _ => Stage.handshake.place
  | shutdown _ => Stage.cleanUp.place
  | _ => 0

namespace Event

/-- What a single event makes a stage fail with. An address that is not reached is not the last
word, and neither is an attempt at a handshake that was interrupted. -/
def refusal? : Event → Option ErrorCode
  | ⟨.setUp step, .error _⟩ => some step.code
  | ⟨.resolve _ _, .error _⟩ => some .ipInvalidRemoteAddr
  | ⟨.duplicate _, .error _⟩ => some .ipSocketError
  | ⟨.handshake _ _ _, ⟨_, .error e⟩⟩ => if e.isTransient then none else some .httpsFailedConnect
  | _ => none

/-- The last step of connecting to an address has been made. -/
def connects : Event → Bool
  | ⟨.writeLimit _ _, .ok ()⟩ => true
  | _ => false

/-- A handshake has been made. -/
def secures : Event → Bool
  | ⟨.handshake _ _ _, ⟨_, .ok _⟩⟩ => true
  | _ => false

theorem refusal?_of_connection {ev : Event} (h : ev.op.place = Stage.connection.place) :
    ev.refusal? = none := by
  obtain ⟨op, a⟩ := ev
  cases op with
  | setUp step => cases step <;> exact nomatch h
  | resolve | duplicate | handshake => exact nomatch h
  | _ => rfl

theorem connects_of_place {ev : Event} (h : ev.op.place ≠ Stage.connection.place) :
    ev.connects = false := by
  obtain ⟨op, a⟩ := ev
  cases op with
  | writeLimit => exact absurd rfl h
  | _ => rfl

theorem secures_of_place {ev : Event} (h : ev.op.place ≠ Stage.handshake.place) :
    ev.secures = false := by
  obtain ⟨op, a⟩ := ev
  cases op with
  | handshake => exact absurd rfl h
  | _ => rfl

theorem secures_of_isInterruption {ev : Event} (h : ev.isInterruption = true) :
    ev.secures = false := by
  obtain ⟨op, a⟩ := ev
  cases op with
  | handshake =>
    obtain ⟨calls, o⟩ := a
    cases o with
    | ok => exact nomatch h
    | error => rfl
  | _ => rfl

theorem refusal?_of_isInterruption {ev : Event} (h : ev.isInterruption = true) :
    ev.refusal? = none := by
  obtain ⟨op, a⟩ := ev
  cases op with
  | setUp | resolve | duplicate => exact nomatch h
  | handshake =>
    obtain ⟨calls, o⟩ := a
    cases o with
    | ok => rfl
    | error e => exact if_pos h
  | _ => rfl

end Event

/-- What belongs to the stages is part of opening. -/
theorem Op.isOpening_of_place {op : Op} (h : Stage.settings.place ≤ op.place) : op.IsOpening := by
  cases op with
  | setUp | set => exact .inl trivial
  | resolve | socket | noDelay | keepAlive | connect | readLimit | writeLimit => exact .inr trivial
  | duplicate | handshake | shutdown => trivial
  | _ => simp [Op.place, Stage.place] at h

theorem Op.isSetUp_of_place {op : Op} (h : Stage.settings.place ≤ op.place)
    (h' : op.place ≤ Stage.identity.place) : op.IsSetUp := by
  cases op with
  | setUp | set => trivial
  | resolve | socket | noDelay | keepAlive | connect | readLimit | writeLimit | duplicate
  | handshake | shutdown => simp [Op.place, Stage.place] at h'
  | _ => simp [Op.place, Stage.place] at h

/-! ## Events stage by stage -/

/-- The events belong to the stages from one up to another, in order, and no stage is left out. -/
structure Covers (start stop : Stage) (es : List Event) : Prop where
  le : start.place ≤ stop.place + 1
  bounds : ∀ ev ∈ es, start.place ≤ ev.op.place ∧ ev.op.place ≤ stop.place
  order : es.Pairwise fun a b => a.op.place ≤ b.op.place
  gapless : ∀ stage : Stage, start.place ≤ stage.place → stage.place ≤ stop.place →
    ∃ ev ∈ es, ev.op.place = stage.place

namespace Covers

variable {start stop next stage : Stage} {es es' : List Event}

theorem nil (h : start.place = stop.place + 1) : Covers start stop [] where
  le := Nat.le_of_eq h
  bounds _ hev := absurd hev List.not_mem_nil
  order := .nil
  gapless _ h₁ h₂ := absurd (Nat.le_trans h₁ h₂) (by omega)

/-- Events of one stage. -/
theorem of_place (hes : es ≠ []) (h : ∀ ev ∈ es, ev.op.place = stage.place) :
    Covers stage stage es where
  le := Nat.le_succ _
  bounds ev hev := ⟨Nat.le_of_eq (h ev hev).symm, Nat.le_of_eq (h ev hev)⟩
  order := List.pairwise_of_forall_mem_list fun a ha b hb =>
    Nat.le_of_eq ((h a ha).trans (h b hb).symm)
  gapless stage' h₁ h₂ := by
    obtain ⟨ev, hev⟩ := List.exists_mem_of_ne_nil es hes
    exact ⟨ev, hev, (h ev hev).trans (Nat.le_antisymm h₁ h₂)⟩

theorem singleton {ev : Event} (h : ev.op.place = stage.place) : Covers stage stage [ev] :=
  of_place (List.cons_ne_nil _ _) (List.forall_mem_singleton.mpr h)

theorem append (h : Covers start stop es) (h' : Covers next stage es')
    (hnext : next.place = stop.place + 1) : Covers start stage (es ++ es') where
  le := by
    have hle := h.le
    have hle' := h'.le
    omega
  bounds := by
    have hle := h.le
    have hle' := h'.le
    refine List.forall_mem_append.mpr ⟨fun ev hev => ?_, fun ev hev => ?_⟩
    · exact ⟨(h.bounds ev hev).1, Nat.le_trans (h.bounds ev hev).2 (by omega)⟩
    · exact ⟨Nat.le_trans (by omega) (h'.bounds ev hev).1, (h'.bounds ev hev).2⟩
  order := by
    refine List.pairwise_append.mpr ⟨h.order, h'.order, fun a ha b hb => ?_⟩
    have ha' := (h.bounds a ha).2
    have hb' := (h'.bounds b hb).1
    omega
  gapless stage' h₁ h₂ := by
    rcases Nat.lt_or_ge stop.place stage'.place with hlt | hge
    · obtain ⟨ev, hev, hplace⟩ := h'.gapless stage' (by omega) h₂
      exact ⟨ev, List.mem_append_right es hev, hplace⟩
    · obtain ⟨ev, hev, hplace⟩ := h.gapless stage' h₁ hge
      exact ⟨ev, List.mem_append_left es' hev, hplace⟩

end Covers

/-- The stages up to one, and a connection that may be given up again. -/
inductive Laid : List Event → Stage → Prop
  | kept {es last} : Covers .settings last es → Laid es last
  | givenUp {es last s a} : Covers .settings last es → Stage.duplication.place ≤ last.place →
    last.place < Stage.cleanUp.place → Laid (es ++ [⟨.shutdown s, a⟩]) last

namespace Laid

variable {es : List Event} {last : Stage}

theorem bounds (h : Laid es last) : ∀ ev ∈ es, Stage.settings.place ≤ ev.op.place ∧
    (ev.op.place ≤ last.place ∨ ∃ s, ev.op = .shutdown s) := by
  cases h with
  | kept h => exact fun ev hev => ⟨(h.bounds ev hev).1, .inl (h.bounds ev hev).2⟩
  | givenUp h =>
    refine List.forall_mem_append.mpr ⟨fun ev hev => ?_, List.forall_mem_singleton.mpr ?_⟩
    · exact ⟨(h.bounds ev hev).1, .inl (h.bounds ev hev).2⟩
    · exact ⟨(by decide : Stage.settings.place ≤ Stage.cleanUp.place), .inr ⟨_, rfl⟩⟩

theorem order (h : Laid es last) : es.Pairwise fun a b => a.op.place ≤ b.op.place := by
  cases h with
  | kept h => exact h.order
  | givenUp h _ hlast =>
    refine List.pairwise_append.mpr ⟨h.order, List.pairwise_singleton _ _, fun a ha => ?_⟩
    exact List.forall_mem_singleton.mpr
      (Nat.le_of_lt (Nat.lt_of_le_of_lt (h.bounds a ha).2 hlast))

theorem gapless (h : Laid es last) : ∀ ev ∈ es, ∀ stage : Stage, stage ≠ .handshake →
    Stage.settings.place ≤ stage.place → stage.place < ev.op.place →
    ∃ ev' ∈ es, ev'.op.place = stage.place := by
  intro ev hev stage hne hle hlt
  cases h with
  | kept h => exact h.gapless stage hle (Nat.le_of_lt (Nat.lt_of_lt_of_le hlt (h.bounds ev hev).2))
  | @givenUp body _ s a h hlast =>
    have hstage : stage.place ≤ last.place := by
      rcases List.mem_append.mp hev with hev | hev
      · exact Nat.le_of_lt (Nat.lt_of_lt_of_le hlt (h.bounds ev hev).2)
      · rw [List.mem_singleton.mp hev] at hlt
        -- What comes before giving up is a handshake, or has been done before one.
        have hearly : stage.place ≤ Stage.duplication.place := by
          cases stage with
          | handshake => exact absurd rfl hne
          | cleanUp => exact absurd hlt (Nat.lt_irrefl _)
          | _ => decide
        exact Nat.le_trans hearly hlast
    obtain ⟨ev', hev', hplace⟩ := h.gapless stage hle hstage
    exact ⟨ev', List.mem_append_left _ hev', hplace⟩

theorem isSetUp (h : Laid es last) (hlast : last.place ≤ Stage.identity.place) :
    ∀ ev ∈ es, ev.op.IsSetUp := by
  cases h with
  | kept h =>
    intro ev hev
    exact Op.isSetUp_of_place (h.bounds ev hev).1 (Nat.le_trans (h.bounds ev hev).2 hlast)
  | givenUp _ hdup => exact absurd (Nat.le_trans hdup hlast) (by decide)

theorem not_secures (h : Laid es last) (hlast : last.place < Stage.handshake.place) :
    ∀ ev ∈ es, ev.secures = false := by
  intro ev hev
  refine Event.secures_of_place ?_
  rcases (h.bounds ev hev).2 with hle | ⟨s, hop⟩
  · exact Nat.ne_of_lt (Nat.lt_of_le_of_lt hle hlast)
  · rw [hop]
    simp [Op.place, Stage.place]

end Laid

/-! ## The stages, one by one -/

/-- Nothing in the events makes a stage fail. -/
def Calm (es : List Event) : Prop := ∀ ev ∈ es, ev.refusal? = none

theorem Calm.append {es es' : List Event} (h : Calm es) (h' : Calm es') : Calm (es ++ es') :=
  List.forall_mem_append.mpr ⟨h, h'⟩

theorem Calm.place_le {es : List Event} (h : Calm es) (place : Nat) :
    ∀ ev ∈ es, ev.refusal?.isSome = true → place ≤ ev.op.place := by
  intro ev hev hsome
  rw [h ev hev] at hsome
  exact nomatch hsome

namespace Pending

variable {ctx : Context} {name : String} {priority : Option String}

/-- The steps that are made before a session is bound to its peer. -/
def settingSteps (ctx : Context) (priority : Option String) : List Op :=
  ctx.stepsFor priority ++ [.setUp .newSession]

theorem steps_eq (ctx : Context) (name : String) (priority : Option String) :
    steps ctx name priority = settingSteps ctx priority ++ (identitySteps name).map .setUp := by
  rw [steps, settingSteps, List.append_assoc]
  rfl

theorem place_of_mem_settingSteps {op : Op} (h : op ∈ settingSteps ctx priority) :
    op.place = Stage.settings.place := by
  rcases List.mem_append.mp h with h | h
  · rcases Context.mem_stepsFor h with rfl | ⟨_, -, rfl⟩ | ⟨_, rfl⟩ | ⟨_, rfl⟩ | ⟨_, rfl⟩ <;> rfl
  · rw [List.mem_singleton.mp h]
    rfl

theorem place_of_mem_identitySteps {op : Op} (h : op ∈ (identitySteps name).map .setUp) :
    op.place = Stage.identity.place := by
  obtain ⟨step, hstep, rfl⟩ := List.mem_map.mp h
  rcases mem_identitySteps hstep with ⟨ip, rfl⟩ | rfl | rfl <;> rfl

theorem settingSteps_ne_nil (ctx : Context) (priority : Option String) :
    settingSteps ctx priority ≠ [] :=
  List.append_ne_nil_of_right_ne_nil _ (List.cons_ne_nil _ _)

theorem identitySteps_ne_nil (name : String) : (identitySteps name).map Op.setUp ≠ [] := by
  unfold identitySteps
  split <;> exact List.cons_ne_nil _ _

theorem code_refusal (name : String) (step : Tls.SetUp) (errors : LibraryErrors) :
    (refusal name step errors).code = step.code := by
  cases step <;> rfl

end Pending

theorem SetUps.calm {steps : List Op} {es : List Event} (h : SetUps steps es none) :
    Calm es := by
  generalize hr : (none : Option (Tls.SetUp × LibraryErrors)) = r at h
  induction h with
  | nil => exact fun _ hev => absurd hev List.not_mem_nil
  | refused => cases hr
  | done _ ih | set _ ih => exact List.forall_mem_cons.mpr ⟨rfl, ih hr⟩

/-- Steps of one stage. -/
theorem SetUps.covers {steps : List Op} {es : List Event} {stage : Stage}
    {r : Option (Tls.SetUp × LibraryErrors)} (h : SetUps steps es r) (hsteps : steps ≠ [])
    (hstage : ∀ op ∈ steps, op.place = stage.place) : Covers stage stage es :=
  .of_place (h.ne_nil hsteps) fun ev hev => hstage ev.op (h.op_mem ev hev)

/-- The step that was refused makes its stage fail. -/
theorem SetUps.exists_refusal {steps : List Op} {es : List Event} {step : Tls.SetUp}
    {errors : LibraryErrors} {stage : Stage} (h : SetUps steps es (some (step, errors)))
    (hstage : ∀ op ∈ steps, op.place = stage.place) :
    ∃ ev ∈ es, ev.refusal? = some step.code ∧ ev.op.place = stage.place :=
  ⟨_, h.error_mem, rfl, hstage _ h.refused_mem⟩

namespace Transport

variable {t : Transport} {address : SocketAddress} {addresses : List SocketAddress}
  {trials : List Trial} {e : SystemError} {es : List Event}

theorem Attempted.place_eq {r : Except SystemError Socket} (h : Attempted t address es r) :
    ∀ ev ∈ es, ev.op.place = Stage.connection.place := by
  cases h <;> simp [Op.place]

theorem Attempted.connects {s : Socket} (h : Attempted t address es (.ok s)) :
    ∃ ev ∈ es, ev.connects = true := by
  cases h
  simp [Event.connects]

theorem Attempted.not_connects (h : Attempted t address es (.error e)) :
    ∀ ev ∈ es, ev.connects = false := by
  cases h <;> simp [Event.connects]

theorem Attempted.socket_mem {r : Except SystemError Socket} (h : Attempted t address es r) :
    ∃ a, ⟨.socket address, a⟩ ∈ es := by
  cases h <;> exact ⟨_, List.mem_cons_self⟩

theorem InTurn.place_eq (h : t.InTurn addresses trials) :
    ∀ ev ∈ trials.flatMap Trial.events, ev.op.place = Stage.connection.place :=
  List.forall_mem_flatMap.mpr fun x hx => (h.attempted x hx).place_eq

theorem InTurn.calm (h : t.InTurn addresses trials) : Calm (trials.flatMap Trial.events) :=
  fun ev hev => Event.refusal?_of_connection (h.place_eq ev hev)

/-- If no address is reached, each of them has been tried. -/
theorem InTurn.exhausts (h : t.InTurn addresses trials) {e e' : SystemError}
    (houtcome : outcomeOf e trials = .error e') :
    (∀ address ∈ addresses, ∃ a, ⟨.socket address, a⟩ ∈ trials.flatMap Trial.events) ∧
      ∀ ev ∈ trials.flatMap Trial.events, ev.connects = false := by
  have hfailed := h.failed houtcome
  refine ⟨fun address haddress => ?_, List.forall_mem_flatMap.mpr fun x hx => ?_⟩
  · rw [← h.all hfailed] at haddress
    obtain ⟨x, hx, rfl⟩ := List.mem_map.mp haddress
    obtain ⟨a, ha⟩ := (h.attempted x hx).socket_mem
    exact ⟨a, List.mem_flatMap.mpr ⟨x, hx, ha⟩⟩
  · obtain ⟨e, he⟩ := hfailed x hx
    exact (he ▸ h.attempted x hx).not_connects

/-- The peer is resolved, and a connection to one of its addresses is made. -/
theorem Reached.stages {s : Socket} (h : Reached t es (.ok s)) :
    Covers .resolution .connection es ∧ Calm es ∧ ∃ ev ∈ es, ev.connects = true := by
  cases h with
  | @reached addresses trials s h houtcome =>
    obtain ⟨before, x, rfl, hs⟩ := eq_concat_of_outcomeOf houtcome
    have hx := h.attempted x (by simp)
    rw [hs] at hx
    obtain ⟨ev, hev, hconnects⟩ := hx.connects
    have hmem : ev ∈ (before ++ [x]).flatMap Trial.events :=
      List.mem_flatMap.mpr ⟨x, by simp, hev⟩
    have hresolved : Covers .resolution .resolution
        [⟨.resolve t.host t.port, .ok addresses⟩] := .singleton rfl
    have htried : Covers .connection .connection ((before ++ [x]).flatMap Trial.events) :=
      .of_place (List.ne_nil_of_mem hmem) h.place_eq
    exact ⟨hresolved.append htried rfl, List.forall_mem_cons.mpr ⟨rfl, h.calm⟩, ev,
      List.mem_cons_of_mem _ hmem, hconnects⟩

end Transport

namespace Pending.Attempts

variable {s : Socket} {request : Tls.Request} {v v' : Verifier} {es : List Event}
  {o : Except Tls.Failure Tls.Negotiated}

theorem covers (h : Attempts s request v es v' o) : Covers .handshake .handshake es := by
  refine .of_place ?_ fun ev hev => ?_
  · cases h <;> exact List.cons_ne_nil _ _
  · obtain ⟨u, hop⟩ := h.op_eq ev hev
    rw [hop]
    rfl

/-- Only the last attempt decides, and it does so by its outcome. -/
theorem secures_of_error {e : Tls.Failure} (h : Attempts s request v es v' (.error e)) :
    ∀ ev ∈ es, ev.secures = false := by
  obtain ⟨before, v₁, calls, rfl, hbefore, -, -, -⟩ := h.exists_last
  refine List.forall_mem_append.mpr ⟨fun ev hev => ?_, List.forall_mem_singleton.mpr rfl⟩
  exact Event.secures_of_isInterruption (hbefore ev hev)

theorem exists_refusal {e : Tls.Failure} (h : Attempts s request v es v' (.error e)) :
    ∃ ev ∈ es, ev.refusal? = some .httpsFailedConnect ∧
      ev.op.place = Stage.handshake.place := by
  obtain ⟨before, v₁, calls, rfl, -, hdecided, -, -⟩ := h.exists_last
  have hdecided : e.isTransient = false := hdecided
  refine ⟨_, List.mem_append_right _ (List.mem_singleton.mpr rfl), ?_, rfl⟩
  exact if_neg (by rw [hdecided]; exact Bool.false_ne_true)

theorem stages_of_ok {n : Tls.Negotiated} (h : Attempts s request v es v' (.ok n)) :
    Calm es ∧ ∃ ev ∈ es, ev.secures = true := by
  obtain ⟨before, v₁, calls, rfl, hbefore, -, -, -⟩ := h.exists_last
  refine ⟨Calm.append (fun ev hev => ?_) (List.forall_mem_singleton.mpr rfl), _,
    List.mem_append_right _ (List.mem_singleton.mpr rfl), rfl⟩
  exact Event.refusal?_of_isInterruption (hbefore ev hev)

end Pending.Attempts

end SecureStream
