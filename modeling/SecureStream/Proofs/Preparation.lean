import SecureStream.Pending
import SecureStream.Proofs.Emission

/-!
# Making a session, step by step

The TLS library is set up for a session in steps. They are made in a fixed order, and the first one
that is refused settles the error.

* `SetUps`: steps up to the first one that is refused;
* `acceptedSteps`: the steps that were accepted;
* `Prepares`, with `Prepares.bind`: a step of the program that sets up and does nothing else;
* `Context.loaded`, `Context.LoadedFrom`: the context that is made of a configuration and a bundle;
* `Pending.steps`, `Pending.refusal`, `Pending.made`: the steps that make a session of a context,
  their errors, and the session;
* **`Pending.prepares_create`**: exactly these steps are made, in this order.
-/

namespace SecureStream

variable {σ ε ε' α β : Type} {E : Environment σ}

/-! ## Steps in order -/

/-- Steps of setting up that are made in order, up to the first one that is refused. -/
inductive SetUps : List Op → List Event → Option (Tls.SetUp × LibraryErrors) → Prop
  | nil : SetUps [] [] none
  | refused {step steps errors} :
    SetUps (.setUp step :: steps) [⟨.setUp step, .error errors⟩] (some (step, errors))
  | done {step steps es r} : SetUps steps es r →
    SetUps (.setUp step :: steps) (⟨.setUp step, .ok ()⟩ :: es) r
  | set {setting steps es r} : SetUps steps es r →
    SetUps (.set setting :: steps) (⟨.set setting, ()⟩ :: es) r

/-- The step of setting up that was accepted in an event. -/
def Event.accepted? : Event → Option Op
  | ⟨.setUp step, .ok ()⟩ => some (.setUp step)
  | ⟨.set setting, ()⟩ => some (.set setting)
  | _ => none

/-- The steps of setting up that were accepted in some events. -/
def acceptedSteps (es : List Event) : List Op := es.filterMap Event.accepted?

theorem acceptedSteps_append (es es' : List Event) :
    acceptedSteps (es ++ es') = acceptedSteps es ++ acceptedSteps es' :=
  List.filterMap_append

theorem mem_acceptedSteps {step : Tls.SetUp} {es : List Event}
    (h : .setUp step ∈ acceptedSteps es) : ⟨.setUp step, .ok ()⟩ ∈ es := by
  obtain ⟨⟨op, a⟩, hev, hstep⟩ := List.mem_filterMap.mp h
  cases op with
  | setUp step' =>
    cases a with
    | ok _ => exact Op.setUp.inj (Option.some.inj hstep) ▸ hev
    | error _ => cases hstep
  | _ => cases hstep

theorem Op.setUp_mem_map {step : Tls.SetUp} {steps : List Tls.SetUp} :
    Op.setUp step ∈ steps.map Op.setUp ↔ step ∈ steps := by
  simp

namespace SetUps

variable {steps steps' : List Op} {es es' : List Event} {r : Option (Tls.SetUp × LibraryErrors)}

theorem append (h : SetUps steps es none) (h' : SetUps steps' es' r) :
    SetUps (steps ++ steps') (es ++ es') r := by
  generalize hr : (none : Option (Tls.SetUp × LibraryErrors)) = r₀ at h
  induction h with
  | nil => exact h'
  | refused => cases hr
  | done _ ih => exact .done (ih hr)
  | set _ ih => exact .set (ih hr)

theorem append_right (h : SetUps steps es r) (hr : r.isSome = true) (steps' : List Op) :
    SetUps (steps ++ steps') es r := by
  induction h with
  | nil => cases hr
  | refused => exact .refused
  | done _ ih => exact .done (ih hr)
  | set _ ih => exact .set (ih hr)

/-- Only the steps are made. -/
theorem op_mem (h : SetUps steps es r) : ∀ ev ∈ es, ev.op ∈ steps := by
  induction h with
  | nil => exact fun _ hev => absurd hev List.not_mem_nil
  | refused => exact List.forall_mem_singleton.mpr List.mem_cons_self
  | done _ ih | set _ ih =>
    exact List.forall_mem_cons.mpr
      ⟨List.mem_cons_self, fun ev hev => List.mem_cons_of_mem _ (ih ev hev)⟩

theorem isSetUp (h : SetUps steps es r) : ∀ ev ∈ es, ev.op.IsSetUp := by
  induction h with
  | nil => exact fun _ hev => absurd hev List.not_mem_nil
  | refused => exact List.forall_mem_singleton.mpr trivial
  | done _ ih | set _ ih => exact List.forall_mem_cons.mpr ⟨trivial, ih⟩

/-- Steps are made after others only if none of those was refused. -/
theorem of_append (h : SetUps (steps ++ steps') es r) : (r.isSome = true ∧ SetUps steps es r) ∨
    ∃ es₁ es₂, es = es₁ ++ es₂ ∧ SetUps steps es₁ none ∧ SetUps steps' es₂ r := by
  induction steps generalizing es with
  | nil => exact .inr ⟨[], es, rfl, .nil, h⟩
  | cons step steps ih =>
    cases h with
    | refused => exact .inl ⟨rfl, .refused⟩
    | done h =>
      rcases ih h with ⟨hr, h⟩ | ⟨es₁, es₂, rfl, h, h'⟩
      · exact .inl ⟨hr, .done h⟩
      · exact .inr ⟨_ :: es₁, es₂, rfl, .done h, h'⟩
    | set h =>
      rcases ih h with ⟨hr, h⟩ | ⟨es₁, es₂, rfl, h, h'⟩
      · exact .inl ⟨hr, .set h⟩
      · exact .inr ⟨_ :: es₁, es₂, rfl, .set h, h'⟩

theorem ne_nil (h : SetUps steps es r) (hsteps : steps ≠ []) : es ≠ [] := by
  cases h with
  | nil => exact absurd rfl hsteps
  | refused | done | set => exact List.cons_ne_nil _ _

/-- The step that was refused has been made. -/
theorem error_mem {step : Tls.SetUp} {errors : LibraryErrors}
    (h : SetUps steps es (some (step, errors))) : ⟨.setUp step, .error errors⟩ ∈ es := by
  generalize hr : some (step, errors) = r at h
  induction h with
  | nil => cases hr
  | refused =>
    cases hr
    exact List.mem_singleton.mpr rfl
  | done _ ih | set _ ih => exact List.mem_cons_of_mem _ (ih hr)

theorem refused_mem {step : Tls.SetUp} {errors : LibraryErrors}
    (h : SetUps steps es (some (step, errors))) : .setUp step ∈ steps :=
  h.op_mem _ h.error_mem

/-- If no step was refused, the steps that were accepted are all of them. -/
theorem accepted_eq (h : SetUps steps es none) : acceptedSteps es = steps := by
  generalize hr : (none : Option (Tls.SetUp × LibraryErrors)) = r at h
  induction h with
  | nil => rfl
  | refused => cases hr
  | done _ ih | set _ ih => exact congrArg (List.cons _) (ih hr)

/-- A step that was refused is the one that settles the error. -/
theorem eq_some_of_mem (h : SetUps steps es r) {step : Tls.SetUp} {errors : LibraryErrors}
    (hev : ⟨.setUp step, .error errors⟩ ∈ es) : r = some (step, errors) := by
  induction h with
  | nil => cases hev
  | refused =>
    cases List.mem_singleton.mp hev
    rfl
  | done _ ih | set _ ih =>
    rcases List.mem_cons.mp hev with heq | hev
    · cases heq
    · exact ih hev

end SetUps

/-- The result of setting up: the value if no step was refused, or else the error of the one that
was. -/
def prepared (error : Tls.SetUp → LibraryErrors → ε) (a : α) :
    Option (Tls.SetUp × LibraryErrors) → Except ε α
  | none => .ok a
  | some (step, errors) => .error (error step errors)

/-- The program makes some steps in order, up to the first one that is refused. -/
def Prepares (E : Environment σ) (f : ExceptT ε (StateM (World σ)) α) (steps : List Op)
    (error : Tls.SetUp → LibraryErrors → ε) (a : α) : Prop :=
  Emits E f.run fun es r => ∃ refusal, SetUps steps es refusal ∧ r = prepared error a refusal

namespace Prepares

variable {error : Tls.SetUp → LibraryErrors → ε}

theorem pure (a : α) : Prepares E (Pure.pure a : ExceptT ε (StateM (World σ)) α) [] error a :=
  Emits.pure ⟨none, .nil, rfl⟩

theorem bind {f : ExceptT ε (StateM (World σ)) α} {g : α → ExceptT ε (StateM (World σ)) β}
    {steps steps' : List Op} {a : α} {b : β} (hf : Prepares E f steps error a)
    (hg : Prepares E (g a) steps' error b) : Prepares E (f >>= g) (steps ++ steps') error b := by
  refine Emits.bindE hf ?_ ?_
  · rintro es e ⟨_ | ⟨step, errors⟩, hes, he⟩
    · cases he
    · cases he
      exact ⟨some (step, errors), hes.append_right rfl _, rfl⟩
  · rintro es a' ⟨_ | ⟨step, errors⟩, hes, ha⟩
    · cases ha
      exact Emits.mono hg fun _ _ ⟨refusal, hes', hr⟩ => ⟨refusal, hes.append hes', hr⟩
    · cases ha

theorem cons {f : ExceptT ε (StateM (World σ)) α} {g : α → ExceptT ε (StateM (World σ)) β}
    {step : Op} {steps : List Op} {a : α} {b : β} (hf : Prepares E f [step] error a)
    (hg : Prepares E (g a) steps error b) : Prepares E (f >>= g) (step :: steps) error b :=
  hf.bind hg

theorem setUp (step : Tls.SetUp) :
    Prepares E (Context.setUp E step) [.setUp step] (fun _ errors => errors) () := by
  have hstep : Emits E (Context.setUp E step).run fun es r => es = [⟨.setUp step, r⟩] :=
    .perform fun _ => rfl
  refine hstep.mono fun es r hes => ?_
  subst hes
  cases r with
  | ok _ => exact ⟨none, .done .nil, rfl⟩
  | error errors => exact ⟨some (step, errors), .refused, rfl⟩

theorem set (setting : Tls.Setting) :
    Prepares E (liftM (perform E (.set setting)) : ExceptT ε (StateM (World σ)) Unit)
      [.set setting] error () := by
  have hstep : Emits E (perform E (.set setting)) fun es _ => es = [⟨.set setting, ()⟩] :=
    .perform fun _ => rfl
  exact Emits.map hstep fun _ _ hes => ⟨none, hes ▸ .set .nil, rfl⟩

/-- The errors may be read in another way. -/
theorem adapt {f : ExceptT ε (StateM (World σ)) α} {steps : List Op} {a : α} {g : ε → ε'}
    {error' : Tls.SetUp → LibraryErrors → ε'} (hf : Prepares E f steps error a)
    (h : ∀ step, .setUp step ∈ steps → ∀ errors, error' step errors = g (error step errors)) :
    Prepares E (f.adapt g) steps error' a := by
  refine Emits.map hf fun es r ⟨refusal, hes, hr⟩ => ⟨refusal, hes, ?_⟩
  subst hr
  cases refusal with
  | none => rfl
  | some refusal => exact congrArg Except.error (h _ hes.refused_mem _).symm

theorem setUpOr {step : Tls.SetUp} {g : LibraryErrors → ε}
    (h : ∀ errors, error step errors = g errors) :
    Prepares E ((Context.setUp E step).adapt g) [.setUp step] error () := by
  refine (setUp step).adapt fun step' hstep => ?_
  cases List.mem_singleton.mp hstep
  exact h

/-- Nothing else comes of it than the value. -/
theorem eq_of_ok {f : ExceptT ε (StateM (World σ)) α} {steps : List Op} {a b : α}
    (hf : Prepares E f steps error a) {w : World σ} (h : (f.run w).1 = .ok b) : b = a := by
  obtain ⟨-, refusal, -, hr⟩ := hf.since w
  have hprepared := hr.symm.trans h
  cases refusal with
  | none => exact (Except.ok.inj hprepared).symm
  | some refusal => cases hprepared

end Prepares

/-! ## The settings of a session -/

namespace Context

/-- The steps that make the TLS library's settings. -/
def steps (trust : TrustStore) (priority : String) (minVersion : Option Version) : List Op :=
  .setUp .newContext :: .setUp (.ciphers priority) ::
    ((minVersion.map fun version => Op.setUp (.minVersion version)).toList ++
      [.setUp (.anchors trust.anchors), .set (.verifyMode .peer), .set (.sessionCache false)])

/-- The error of a refused step. -/
def refusal : Tls.SetUp → LibraryErrors → SetupError
  | .ciphers priority, errors => .invalidPriority priority errors
  | _, errors => .library errors

theorem prepares_build (trust : TrustStore) (priority : String) (minVersion : Option Version) :
    Prepares E (build E trust priority minVersion) (steps trust priority minVersion) refusal
      ⟨priority, minVersion, trust.anchors, .peer, false⟩ := by
  have hset {step : Tls.SetUp} {error : LibraryErrors → SetupError}
      (h : ∀ errors, refusal step errors = error errors) :
      Prepares E (setUpOr E error step) [.setUp step] refusal () := .setUpOr h
  unfold build steps
  refine (hset fun _ => rfl).cons ((hset fun _ => rfl).cons ?_)
  cases minVersion with
  | none => exact (hset fun _ => rfl).cons ((Prepares.set _).cons ((Prepares.set _).cons (.pure _)))
  | some version =>
    exact (hset fun _ => rfl).cons
      ((hset fun _ => rfl).cons ((Prepares.set _).cons ((Prepares.set _).cons (.pure _))))

/-- The priority string that a session has of its own, if it is not that of the context. -/
def ownPriority (ctx : Context) (priority : Option String) : Option String :=
  priority.filter (· ≠ ctx.config.priority)

/-- The steps that make the settings for a session. -/
def stepsFor (ctx : Context) (priority : Option String) : List Op :=
  match ctx.ownPriority priority with
  | some p => steps ctx.trust p ctx.config.minVersion
  | none => []

/-- A priority string is tried only if the session has one of its own. -/
theorem mem_stepsFor {ctx : Context} {priority : Option String} {op : Op}
    (h : op ∈ ctx.stepsFor priority) : op = .setUp .newContext ∨
      (∃ p, priority = some p ∧ op = .setUp (.ciphers p)) ∨
      (∃ version, op = .setUp (.minVersion version)) ∨
      (∃ anchors, op = .setUp (.anchors anchors)) ∨ ∃ setting, op = .set setting := by
  unfold stepsFor at h
  split at h
  · next p hp =>
    simp only [steps, List.mem_cons, List.mem_append, Option.mem_toList, Option.map_eq_some_iff,
      List.not_mem_nil, or_false] at h
    rcases h with h | h | ⟨version, -, h⟩ | h | h | h
    · exact .inl h
    · exact .inr (.inl ⟨p, Option.eq_some_of_filter_eq_some hp, h⟩)
    · exact .inr (.inr (.inl ⟨version, h.symm⟩))
    · exact .inr (.inr (.inr (.inl ⟨_, h⟩)))
    · exact .inr (.inr (.inr (.inr ⟨_, h⟩)))
    · exact .inr (.inr (.inr (.inr ⟨_, h⟩)))
  · cases h

/-- The settings for a session. -/
def libraryFor (ctx : Context) (priority : Option String) : Tls.Context :=
  match ctx.ownPriority priority with
  | some p => ⟨p, ctx.config.minVersion, ctx.trust.anchors, .peer, false⟩
  | none => ctx.library

theorem prepares_settings (ctx : Context) (priority : Option String) :
    Prepares E (ctx.settings E priority) (ctx.stepsFor priority) refusal
      (ctx.libraryFor priority) := by
  unfold settings stepsFor libraryFor ownPriority
  cases priority with
  | none => exact .pure _
  | some p =>
    dsimp only
    by_cases hp : p = ctx.config.priority
    · rw [if_pos hp, Option.filter_some, if_neg (by simp [hp])]
      exact .pure _
    · rw [if_neg hp, Option.filter_some, if_pos (by simp [hp])]
      exact prepares_build _ _ _

/-- The context that is made of a configuration and trust anchors. -/
def loaded (config : Config) (trust : TrustStore) : Context :=
  ⟨config, trust, ⟨config.priority, config.minVersion, trust.anchors, .peer, false⟩⟩

/-- A context is made of the trust anchors in a file, which is read once. -/
theorem emits_init (config : Config) : Emits E (init E config).run fun es r =>
    ∀ ctx, r = .ok ctx → ∃ release content trust es',
      es = ⟨.release, release⟩ :: ⟨.readFile config.caFile, content⟩ :: es' ∧
      SetUps (steps trust config.priority config.minVersion) es' none ∧
      TrustStore.ofFile config.caFile content = .ok trust ∧ ctx = loaded config trust := by
  have hlift {ε : Type} (op : Op) :
      Emits E (liftM (perform E op) : ExceptT ε (StateM (World σ)) op.Answer).run
        fun es r => ∃ a, es = [⟨op, a⟩] ∧ r = .ok a :=
    Emits.map (.perform fun _ => rfl : Emits E (perform E op) fun es a => es = [⟨op, a⟩])
      fun _ a hes => ⟨a, hes, rfl⟩
  have hcheck {ε α : Type} (x : Except ε α) :
      Emits E (attempt (pure x) : ExceptT ε (StateM (World σ)) α).run fun es r => es = [] ∧ r = x :=
    .pure ⟨rfl, rfl⟩
  unfold init
  refine (hlift .release).bindE (fun _ _ ⟨_, _, h⟩ => nomatch h) ?_
  rintro _ _ ⟨release, rfl, -⟩
  refine (hcheck _).bindE (fun _ _ _ _ h => nomatch h) ?_
  rintro _ _ ⟨rfl, -⟩
  refine (hlift (.readFile config.caFile)).bindE (fun _ _ ⟨_, _, h⟩ => nomatch h) ?_
  rintro _ content ⟨_, rfl, ⟨⟩⟩
  refine (hcheck _).bindE (fun _ _ _ _ h => nomatch h) ?_
  rintro _ trust ⟨rfl, htrust⟩
  refine Emits.bindE (prepares_build trust config.priority config.minVersion)
    (fun _ _ _ _ h => nomatch h) ?_
  rintro es _ ⟨_ | _, hes, h⟩
  · cases h
    refine .of_gains (fun _ => ⟨[_], rfl, rfl⟩) fun _ ctx hctx => ?_
    rw [← Except.ok.inj hctx]
    refine ⟨release, content, trust, es, ?_, hes, htrust.symm, rfl⟩
    simp
  · cases h

/-- The context was made of a configuration, and of the trust anchors in a bundle. -/
def LoadedFrom (E : Environment σ) (config : Config) (bundle : List UInt8) (ctx : Context) : Prop :=
  ∃ w w', (init E config).run w = (.ok ctx, w') ∧ ⟨.readFile config.caFile, .ok bundle⟩ ∈ w'.since w

/-- Such a context does not depend on anything else. -/
theorem LoadedFrom.eq_loaded {config : Config} {bundle : List UInt8} {ctx : Context}
    (h : ctx.LoadedFrom E config bundle) :
    ∃ trust, TrustStore.ofFile config.caFile (.ok bundle) = .ok trust ∧
      ctx = loaded config trust := by
  obtain ⟨w, w', hrun, hmem⟩ := h
  have hinit := ((emits_init (E := E) config).since w).2
  rw [hrun] at hinit
  obtain ⟨release, content, trust, es, hes, hsteps, htrust, hctx⟩ := hinit ctx rfl
  rw [hes] at hmem
  refine ⟨trust, ?_, hctx⟩
  simp only [List.mem_cons] at hmem
  rcases hmem with heq | heq | hmem
  · cases heq
  · cases heq
    exact htrust
  · exact absurd (hsteps.isSetUp _ hmem) id

/-- Every context is made of some bundle. -/
theorem exists_loadedFrom {config : Config} {ctx : Context} {w w' : World σ}
    (h : (init E config).run w = (.ok ctx, w')) : ∃ bundle, ctx.LoadedFrom E config bundle := by
  have hinit := ((emits_init (E := E) config).since w).2
  rw [h] at hinit
  obtain ⟨release, content, trust, es, hes, -, htrust, -⟩ := hinit ctx rfl
  cases content with
  | error e => exact nomatch htrust
  | ok bundle => exact ⟨bundle, w, w', h, by rw [hes]; simp⟩

/-- The settings for a session of a context that was made of a configuration. -/
theorem libraryFor_loaded (config : Config) (trust : TrustStore) (priority : Option String) :
    (loaded config trust).libraryFor priority =
      ⟨priority.getD config.priority, config.minVersion, trust.anchors, .peer, false⟩ := by
  cases priority with
  | none => rfl
  | some p =>
    unfold libraryFor ownPriority
    rw [Option.filter_some]
    by_cases hp : p = config.priority
    · rw [if_neg (by simp [loaded, hp]), hp]
      rfl
    · rw [if_pos (by simp [loaded, hp])]
      rfl

end Context

/-- The error is one of making a session. -/
def ConnectionError.IsOfSetUp : ConnectionError → Prop
  | setup _ | serverName _ _ | invalidPriority _ _ => True
  | _ => False

namespace Pending

/-- The steps that bind a session to its peer. -/
def identitySteps (name : String) : List Tls.SetUp :=
  match IpAddress.ofText? name with
  | some ip => [.expectIp ip]
  | none => [.askName name, .expectHost name]

/-- What is asked of the TLS library for a session with some settings. -/
def requestFor (context : Tls.Context) (name : String) : Tls.Request :=
  match IpAddress.ofText? name with
  | some ip => { unbound context with expectedIp := some ip }
  | none => { unbound context with askedName := some name, expectedHost := some name }

theorem context_requestFor (context : Tls.Context) (name : String) :
    (requestFor context name).context = context := by
  unfold requestFor
  split <;> rfl

/-- The steps that make a session of a context. -/
def steps (ctx : Context) (name : String) (priority : Option String) : List Op :=
  ctx.stepsFor priority ++ .setUp .newSession :: (identitySteps name).map .setUp

/-- The error of a refused step. -/
def refusal (name : String) : Tls.SetUp → LibraryErrors → ConnectionError
  | .ciphers priority, errors => .invalidPriority priority errors
  | .askName _, errors | .expectHost _, errors | .expectIp _, errors =>
    .serverName name errors.message
  | _, errors => .setup (.library errors)

/-- The session that is made. -/
def made (ctx : Context) (name : String) (priority : Option String) : Pending :=
  ⟨requestFor (ctx.libraryFor priority) name, .fresh name ctx.config.policy⟩

theorem prepares_bind (context : Tls.Context) (name : String) :
    Prepares E (bind E context name) ((identitySteps name).map .setUp) (fun _ errors => errors)
      (requestFor context name) := by
  unfold bind identitySteps requestFor
  cases IpAddress.ofText? name with
  | some ip => exact (Prepares.setUp _).cons (.pure _)
  | none => exact (Prepares.setUp _).cons ((Prepares.setUp _).cons (.pure _))

theorem mem_identitySteps {name : String} {step : Tls.SetUp} (h : step ∈ identitySteps name) :
    (∃ ip, step = .expectIp ip) ∨ step = .askName name ∨ step = .expectHost name := by
  unfold identitySteps at h
  split at h
  · exact .inl ⟨_, List.mem_singleton.mp h⟩
  · simp only [List.mem_cons, List.not_mem_nil, or_false] at h
    exact .inr h

theorem refusal_of_mem_identitySteps {name : String} {step : Tls.SetUp}
    (h : step ∈ identitySteps name) (errors : LibraryErrors) :
    refusal name step errors = .serverName name errors.message := by
  rcases mem_identitySteps h with ⟨ip, rfl⟩ | rfl | rfl <;> rfl

theorem refusal_of_mem_stepsFor {ctx : Context} {priority : Option String} {step : Tls.SetUp}
    (name : String) (h : .setUp step ∈ ctx.stepsFor priority) (errors : LibraryErrors) :
    refusal name step errors = .ofSetup (Context.refusal step errors) := by
  rcases Context.mem_stepsFor h with heq | ⟨_, -, heq⟩ | ⟨_, heq⟩ | ⟨_, heq⟩ | ⟨_, heq⟩ <;>
    cases heq <;> rfl

theorem isOfSetUp_refusal (name : String) (step : Tls.SetUp) (errors : LibraryErrors) :
    (refusal name step errors).IsOfSetUp := by
  cases step <;> trivial

variable (E) in
/-- The settings of a session are those of the context, and a failure is logged. -/
theorem settings_eq (ctx : Context) (priority : Option String) :
    (settings E ctx priority).run = (ctx.settings E priority).run >>= fun
      | .ok library => pure (.ok library)
      | .error e => do
        modify (·.record (setUpLine? e).toList)
        return .error (.ofSetup e) := by
  funext w
  rcases hrun : (ctx.settings E priority).run w with ⟨r, w₁⟩
  rw [bind_of_eq hrun]
  simp only [settings, ExceptT.run] at hrun ⊢
  rw [hrun]
  cases r with
  | ok library => rfl
  | error e => rfl

theorem prepares_settings (ctx : Context) (name : String) (priority : Option String) :
    Prepares E (settings E ctx priority) (ctx.stepsFor priority) (refusal name)
      (ctx.libraryFor priority) := by
  unfold Prepares
  rw [settings_eq]
  refine Emits.bind (ctx.prepares_settings priority) ?_
  rintro es _ ⟨_ | ⟨step, errors⟩, hes, rfl⟩
  · refine .pure ⟨none, ?_, rfl⟩
    rw [List.append_nil]
    exact hes
  · refine .of_gains (fun _ => ⟨_, rfl, rfl⟩) fun _ => ⟨some (step, errors), ?_, ?_⟩
    · rw [List.append_nil]
      exact hes
    · exact congrArg Except.error (refusal_of_mem_stepsFor name hes.refused_mem errors).symm

theorem nameFault?_eq_none_iff {name : String} :
    nameFault? name = none ↔ ¬ name = "" ∧ '\x00' ∉ name.toList := by
  unfold nameFault?
  by_cases hempty : name = ""
  · simp [hempty]
  · simp [hempty]

theorem create_of_nameFault {name reason : String} (hname : nameFault? name = some reason)
    (ctx : Context) (priority : Option String) :
    create E ctx name priority = throw (.serverName name reason) := by
  rw [create, hname]

/-- **A session is made in exactly these steps, up to the first one that is refused.** -/
theorem prepares_create {ctx : Context} {name : String} (hname : nameFault? name = none)
    (priority : Option String) :
    Prepares E (create E ctx name priority) (steps ctx name priority) (refusal name)
      (made ctx name priority) := by
  have hbound : Prepares E ((bind E (ctx.libraryFor priority) name).adapt fun errors =>
      ConnectionError.serverName name errors.message) ((identitySteps name).map .setUp)
      (refusal name) (requestFor (ctx.libraryFor priority) name) :=
    (prepares_bind _ name).adapt fun _ hstep =>
      refusal_of_mem_identitySteps (Op.setUp_mem_map.mp hstep)
  have hsession : Prepares E ((Context.setUp E .newSession).adapt fun errors =>
      ConnectionError.setup (.library errors)) [.setUp .newSession] (refusal name) () :=
    .setUpOr fun _ => rfl
  unfold create steps
  rw [hname, ← List.append_nil ((identitySteps name).map Op.setUp)]
  exact (prepares_settings ctx name priority).bind (hsession.cons (hbound.bind (.pure _)))

/-- A session that is made is that of the context, the name and the priority string. -/
theorem eq_made_of_create {ctx : Context} {name : String} {priority : Option String} {p : Pending}
    {w : World σ} (h : ((create E ctx name priority).run w).1 = .ok p) :
    nameFault? name = none ∧ p = made ctx name priority := by
  cases hname : nameFault? name with
  | some reason =>
    rw [create_of_nameFault hname] at h
    cases h
  | none => exact ⟨rfl, (prepares_create hname priority).eq_of_ok h⟩

end Pending

end SecureStream
