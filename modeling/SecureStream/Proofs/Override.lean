import SecureStream.Proofs.Accounting
import SecureStream.Proofs.Isolation

/-!
# Priority strings of sessions

A session may have a priority string of its own. Its settings then differ from those of other
sessions in the ciphers, and in nothing else: it trusts the same authorities, and goes no lower in
its version.

* `Tls.Context.stored`: the settings that some events have left in the TLS library;
* `Environment.Takes`: a TLS library that refuses no settings but ciphers that it cannot read;
* `Context.build_cases`, `Context.settings_cases`: settings made anew, and those of a session, are
  the same or fail with the same error;
* `Tls.Context.IsOf`: what the settings of all sessions have in common;
* **`Context.upheld`**: whatever priority strings sessions have, this is what they get.
-/

namespace SecureStream

variable {σ : Type} {E : Environment σ}

/-! ## What the TLS library stores -/

namespace Tls.Context

/-- New settings, of which nothing is stored yet. No peer has to prove who it is, and sessions may
be resumed. -/
def blank : Tls.Context := ⟨"", none, [], .none, true⟩

/-- The settings after a step that was accepted. The TLS library stores what it is given. -/
def store (context : Tls.Context) : Op → Tls.Context
  | .setUp .newContext => blank
  | .setUp (.ciphers priority) => { context with priority }
  | .setUp (.minVersion version) => { context with minVersion := some version }
  | .setUp (.anchors anchors) => { context with anchors }
  | .set (.verifyMode verifyMode) => { context with verifyMode }
  | .set (.sessionCache sessionCache) => { context with sessionCache }
  | _ => context

/-- The settings that some events have left in the TLS library. -/
def stored (es : List Event) : Tls.Context := (acceptedSteps es).foldl store blank

end Tls.Context

namespace Context

theorem foldl_store_steps (trust : TrustStore) (priority : String) (minVersion : Option Version)
    (context : Tls.Context) : (steps trust priority minVersion).foldl Tls.Context.store context =
      ⟨priority, minVersion, trust.anchors, .peer, false⟩ := by
  cases minVersion <;> rfl

/-- The steps for a session leave its settings behind, on top of those of its context. -/
theorem foldl_store_stepsFor (ctx : Context) (priority : Option String) :
    (ctx.stepsFor priority).foldl Tls.Context.store ctx.library = ctx.libraryFor priority := by
  unfold stepsFor libraryFor
  cases ctx.ownPriority priority with
  | none => rfl
  | some p => exact foldl_store_steps _ _ _ _

end Context

/-! ## Which priority strings are taken -/

/-- The TLS library takes all settings that sessions share, but of the ciphers only those that it
can read. -/
structure Environment.Takes (E : Environment σ) (reads : String → Prop) : Prop where
  newContext : ∀ state, (E.answer (.setUp .newContext) state).1 = .ok ()
  ciphers : ∀ p state, (E.answer (.setUp (.ciphers p)) state).1 = .ok () ↔ reads p
  minVersion : ∀ version state, (E.answer (.setUp (.minVersion version)) state).1 = .ok ()
  anchors : ∀ anchors state, (E.answer (.setUp (.anchors anchors)) state).1 = .ok ()

namespace Context

variable {reads : String → Prop} {config : Config} {trust : TrustStore}

theorem reads_of_accepted (hE : E.Takes reads) {p : String}
    (h : E.Gives ⟨.setUp (.ciphers p), .ok ()⟩) : reads p := by
  obtain ⟨state, h⟩ := h
  exact (hE.ciphers p state).mp h

/-- Of the steps that make settings, only that of the ciphers can be refused. -/
theorem eq_ciphers_of_refused (hE : E.Takes reads) {p : String} {minVersion : Option Version}
    {step : Tls.SetUp} {errors : LibraryErrors} (hstep : .setUp step ∈ steps trust p minVersion)
    (h : E.Gives ⟨.setUp step, .error errors⟩) : step = .ciphers p ∧ ¬ reads p := by
  obtain ⟨state, h⟩ := h
  have hrefused : (E.answer (.setUp step) state).1 = .error errors := h
  simp only [steps, List.mem_cons, List.mem_append, Option.mem_toList, Option.map_eq_some_iff,
    List.not_mem_nil, or_false, Op.setUp.injEq, reduceCtorEq] at hstep
  rcases hstep with rfl | rfl | ⟨version, -, rfl⟩ | rfl
  · cases (hE.newContext state).symm.trans hrefused
  · refine ⟨rfl, fun hreads => ?_⟩
    cases ((hE.ciphers p state).mpr hreads).symm.trans hrefused
  · cases (hE.minVersion version state).symm.trans hrefused
  · cases (hE.anchors _ state).symm.trans hrefused

/-- Settings made anew: those that were asked for if the ciphers can be read, or else the error. -/
theorem build_cases (hE : E.Takes reads) (trust : TrustStore) (p : String)
    (minVersion : Option Version) (w : World σ) :
    (reads p ∧ ((build E trust p minVersion).run w).1 =
      .ok ⟨p, minVersion, trust.anchors, .peer, false⟩) ∨
    (¬ reads p ∧ ∃ errors, ((build E trust p minVersion).run w).1 =
      .error (.invalidPriority p errors)) := by
  obtain ⟨hgives, refusal, hes, hr⟩ := (prepares_build (E := E) trust p minVersion).since w
  cases refusal with
  | none =>
    have hciphers : .setUp (.ciphers p) ∈ steps trust p minVersion :=
      List.mem_cons_of_mem _ List.mem_cons_self
    rw [← hes.accepted_eq] at hciphers
    exact .inl ⟨reads_of_accepted hE (hgives _ (mem_acceptedSteps hciphers)), hr⟩
  | some refusal =>
    obtain ⟨step, errors⟩ := refusal
    obtain ⟨rfl, hreads⟩ := eq_ciphers_of_refused hE hes.refused_mem (hgives _ hes.error_mem)
    exact .inr ⟨hreads, errors, hr⟩

/-- The settings of a session come out like settings made anew, also if they are shared. -/
theorem settings_cases (hE : E.Takes reads) (hreads : reads config.priority)
    (priority : Option String) (w : World σ) :
    (reads (priority.getD config.priority) ∧ (((loaded config trust).settings E priority).run w).1 =
      .ok ⟨priority.getD config.priority, config.minVersion, trust.anchors, .peer, false⟩) ∨
    (¬ reads (priority.getD config.priority) ∧ ∃ errors,
      (((loaded config trust).settings E priority).run w).1 =
        .error (.invalidPriority (priority.getD config.priority) errors)) := by
  cases priority with
  | none => exact .inl ⟨hreads, rfl⟩
  | some p =>
    by_cases hp : p = config.priority
    · have hshared : (loaded config trust).settings E (some p) =
          pure (loaded config trust).library := if_pos hp
      rw [hshared, Option.getD_some, hp]
      exact .inl ⟨hreads, rfl⟩
    · have hanew : (loaded config trust).settings E (some p) =
          build E trust p config.minVersion := if_neg hp
      rw [hanew]
      exact build_cases hE trust p config.minVersion w

theorem ok_iff_of_cases {ε α β : Type} {x : Except ε α} {a b : α} {P : Prop} {f : β → ε}
    (h : (P ∧ x = .ok a) ∨ (¬ P ∧ ∃ errors, x = .error (f errors))) :
    x = .ok b ↔ P ∧ b = a := by
  rcases h with ⟨hP, rfl⟩ | ⟨hP, errors, rfl⟩
  · exact ⟨fun hok => ⟨hP, (Except.ok.inj hok).symm⟩, fun ⟨_, hb⟩ => hb ▸ rfl⟩
  · exact ⟨fun hok => (nomatch hok), fun ⟨hP', _⟩ => absurd hP' hP⟩

theorem build_ok_iff (hE : E.Takes reads) {p : String} {minVersion : Option Version}
    {library : Tls.Context} {w : World σ} :
    ((build E trust p minVersion).run w).1 = .ok library ↔
      reads p ∧ library = ⟨p, minVersion, trust.anchors, .peer, false⟩ :=
  ok_iff_of_cases (build_cases hE trust p minVersion w)

theorem settings_ok_iff (hE : E.Takes reads) (hreads : reads config.priority)
    {priority : Option String} {library : Tls.Context} {w : World σ} :
    (((loaded config trust).settings E priority).run w).1 = .ok library ↔
      reads (priority.getD config.priority) ∧ library =
        ⟨priority.getD config.priority, config.minVersion, trust.anchors, .peer, false⟩ :=
  ok_iff_of_cases (settings_cases hE hreads priority w)

theorem reads_getD_iff {p₀ : String} (h : reads p₀) (priority : Option String) :
    reads (priority.getD p₀) ↔
      priority = none ∨ priority = some p₀ ∨ ∃ p, priority = some p ∧ reads p := by
  cases priority with
  | none => exact ⟨fun _ => .inl rfl, fun _ => h⟩
  | some p =>
    refine ⟨fun hp => .inr (.inr ⟨p, rfl, hp⟩), ?_⟩
    rintro (hnone | hsome | ⟨q, hsome, hq⟩)
    · cases hnone
    · exact Option.some.inj hsome ▸ h
    · exact Option.some.inj hsome ▸ hq

end Context

/-! ## What sessions get -/

/-- The settings are those that a context makes for a priority string: its ciphers, the version
floor and all authorities of the context, a peer that proves who it is, and no resumed sessions. -/
structure Tls.Context.IsOf (library : Tls.Context) (ctx : SecureStream.Context)
    (priority : Option String) : Prop where
  ciphers : library.priority = priority.getD ctx.config.priority
  floor : library.minVersion = ctx.config.minVersion
  authorities : ∀ c, c ∈ library.anchors ↔ c ∈ ctx.trust.certificates
  proven : library.verifyMode = .peer
  unresumed : library.sessionCache = false

namespace Context

variable {config : Config} {trust : TrustStore}

theorem isOf_loaded (config : Config) (trust : TrustStore) (priority : Option String) :
    Tls.Context.IsOf
      ⟨priority.getD config.priority, config.minVersion, trust.anchors, .peer, false⟩
      (loaded config trust) priority :=
  ⟨rfl, rfl, fun _ => List.mem_eraseDups, rfl, rfl⟩

theorem isOf_libraryFor (config : Config) (trust : TrustStore) (priority : Option String) :
    ((loaded config trust).libraryFor priority).IsOf (loaded config trust) priority := by
  rw [libraryFor_loaded]
  exact isOf_loaded config trust priority

theorem certificates_of_ofFile {path : String} {bundle : List UInt8}
    (h : TrustStore.ofFile path (.ok bundle) = .ok trust) :
    Pem.certificates bundle = .ok trust.certificates := by
  obtain ⟨-, text, htext, hcertificates⟩ := TrustStore.ofFile_eq_ok_iff.mp h
  rwa [Except.ok.inj htext]

/-- What comes of the settings for a session with some priority string, in a world that comes after
the context was made in some events. -/
structure Overridden (E : Environment σ) (ctx : Context) (before : List Event)
    (priority : Option String) (w : World σ) : Prop where
  isOf : ∀ library, ((ctx.settings E priority).run w).1 = .ok library → library.IsOf ctx priority
  /-- The TLS library has stored these settings, for the context or for the session. -/
  stored : ∀ library, ((ctx.settings E priority).run w).1 = .ok library →
    Tls.Context.stored (before ++ ((ctx.settings E priority).run w).2.since w) = library
  /-- The count of sessions stays as it is. -/
  kept : ((ctx.settings E priority).run w).2.openSessions = w.openSessions
  ok_iff : ∀ reads, E.Takes reads →
    ((∃ library, ((ctx.settings E priority).run w).1 = .ok library) ↔
      priority = none ∨ priority = some ctx.config.priority ∨ ∃ p, priority = some p ∧ reads p)
  /-- The error of ciphers that were refused names them, -/
  refused : ∀ p errors,
    ⟨.setUp (.ciphers p), .error errors⟩ ∈ ((ctx.settings E priority).run w).2.since w →
    priority = some p ∧ ((ctx.settings E priority).run w).1 = .error (.invalidPriority p errors)
  /-- and ciphers that cannot be read are refused. -/
  rejected : ∀ reads, E.Takes reads → ∀ p, priority = some p → ¬ reads p →
    ∃ errors, ((ctx.settings E priority).run w).1 = .error (.invalidPriority p errors)
  /-- Shared settings are the same as settings that are made anew, whenever that is. -/
  anew : ∀ reads, E.Takes reads → ∀ library (w' : World σ),
    ((ctx.settings E priority).run w).1 = .ok library ↔
      ((build E ctx.trust (priority.getD ctx.config.priority) ctx.config.minVersion).run w').1 =
        .ok library

theorem overridden {before : List Event}
    (hbefore : Tls.Context.stored before = (loaded config trust).library)
    (hreads : ∀ reads, E.Takes reads → reads config.priority) (priority : Option String)
    (w : World σ) : Overridden E (loaded config trust) before priority w := by
  obtain ⟨-, refusal, hes, hr⟩ :=
    ((loaded config trust).prepares_settings (E := E) priority).since w
  have hok : ∀ library, (((loaded config trust).settings E priority).run w).1 = .ok library →
      refusal = none ∧ library = (loaded config trust).libraryFor priority := by
    intro library hlibrary
    rw [ExceptT.run] at hlibrary hr
    rw [hr] at hlibrary
    cases refusal with
    | none => exact ⟨rfl, (Except.ok.inj hlibrary).symm⟩
    | some refusal => cases hlibrary
  constructor
  case isOf =>
    intro library hlibrary
    rw [(hok library hlibrary).2]
    exact isOf_libraryFor config trust priority
  case stored =>
    -- What the session adds is stored on top of what making the context has left.
    intro library hlibrary
    obtain ⟨rfl, rfl⟩ := hok library hlibrary
    rw [Tls.Context.stored, acceptedSteps_append, List.foldl_append, hes.accepted_eq]
    change List.foldl _ (Tls.Context.stored before) _ = _
    rw [hbefore]
    exact (loaded config trust).foldl_store_stepsFor priority
  case kept =>
    exact (still_of_agree (fun _ hR => hR.settings (loaded config trust) priority) w).openSessions
  case ok_iff =>
    intro reads hE
    refine Iff.trans ?_ (reads_getD_iff (hreads reads hE) priority)
    refine ⟨fun ⟨library, hok⟩ => ((settings_ok_iff hE (hreads reads hE)).mp hok).1, fun h => ?_⟩
    exact ⟨_, (settings_ok_iff hE (hreads reads hE)).mpr ⟨h, rfl⟩⟩
  case refused =>
    intro p errors hev
    obtain rfl := hes.eq_some_of_mem hev
    rcases mem_stepsFor hes.refused_mem with
      hstep | ⟨q, hq, hstep⟩ | ⟨_, hstep⟩ | ⟨_, hstep⟩ | ⟨_, hstep⟩
    · cases hstep
    · cases hstep
      exact ⟨hq, hr⟩
    all_goals cases hstep
  case rejected =>
    rintro reads hE p rfl hp
    rcases settings_cases hE (hreads reads hE) (some p) w with ⟨h, -⟩ | ⟨-, herror⟩
    · exact absurd h hp
    · exact herror
  case anew =>
    intro reads hE library w'
    exact (settings_ok_iff hE (hreads reads hE)).trans (build_ok_iff hE).symm

/-- What a context that was made of a configuration in some events gives to all of its sessions. -/
structure Upheld (E : Environment σ) (config : Config) (before : List Event) (ctx : Context) :
    Prop where
  config_eq : ctx.config = config
  /-- The authorities are all those of the bundle. -/
  bundle : ∃ bundle, ⟨.readFile config.caFile, .ok bundle⟩ ∈ before ∧
    Pem.certificates bundle = .ok ctx.trust.certificates
  overridden : ∀ priority w, Overridden E ctx before priority w
  /-- That holds of every session that is made, -/
  created : ∀ name priority w p, ((Pending.create E ctx name priority).run w).1 = .ok p →
    p.request.context.IsOf ctx priority
  /-- and of every handshake that is tried, whatever clients there are and are asked to do. -/
  shaken : ∀ {κ : Type} [DecidableEq κ] (k : κ) (clients : κ → Client) (endpoint : Endpoint),
    Client.new endpoint (some ctx) = .ok (clients k) → ∀ (calls : List (κ × Call)) (w : World σ),
    ∀ x ∈ (conversation E clients calls w k).exchanges, ∀ s request v a,
      ⟨.handshake s request v, a⟩ ∈ x.events → request.context.IsOf ctx endpoint.priority

/-- **A priority string of its own changes the ciphers of a session and nothing else.** -/
theorem upheld {config : Config} {ctx : Context} {w₀ w₁ : World σ}
    (hinit : (init E config).run w₀ = (.ok ctx, w₁)) :
    Upheld E config (w₁.since w₀) ctx := by
  obtain ⟨hgives, hmade⟩ := (emits_init (E := E) config).since w₀
  rw [hinit] at hgives hmade
  obtain ⟨release, content, trust, es, hes, hsteps, htrust, rfl⟩ := hmade ctx rfl
  dsimp only at hgives hes
  have hstored : Tls.Context.stored (w₁.since w₀) = (loaded config trust).library := by
    have haccepted : acceptedSteps (w₁.since w₀) = acceptedSteps es := by rw [hes]; rfl
    rw [Tls.Context.stored, haccepted, hsteps.accepted_eq]
    exact foldl_store_steps _ _ _ _
  -- Without ciphers that can be read there would be no context.
  have hreads : ∀ reads, E.Takes reads → reads config.priority := by
    intro reads hE
    have hciphers : .setUp (.ciphers config.priority) ∈
        steps trust config.priority config.minVersion := List.mem_cons_of_mem _ List.mem_cons_self
    rw [← hsteps.accepted_eq] at hciphers
    refine reads_of_accepted hE (hgives _ ?_)
    rw [hes]
    exact List.mem_cons_of_mem _ (List.mem_cons_of_mem _ (mem_acceptedSteps hciphers))
  constructor
  case config_eq => rfl
  case bundle =>
    cases content with
    | error e => exact nomatch htrust
    | ok bundle => exact ⟨bundle, by rw [hes]; simp, certificates_of_ofFile htrust⟩
  case overridden => exact fun priority w => overridden hstored hreads priority w
  case created =>
    intro name priority w p hp
    obtain ⟨-, rfl⟩ := Pending.eq_made_of_create hp
    rw [Pending.made, Pending.context_requestFor]
    exact isOf_libraryFor config trust priority
  case shaken =>
    intro κ _ k clients endpoint hnew calls w x hx s request v a hev
    have hfaithful := conversation_faithful (E := E) hnew calls w x hx
    rw [hfaithful.settings s request v a hev]
    exact isOf_loaded config trust endpoint.priority

end Context

/-- The network reads the priority strings of the TLS library. -/
theorem Peer.Network.takes :
    environment.Takes fun p => (Cipher.Priority.read? p).isSome = true where
  newContext _ := rfl
  ciphers p n := by
    change (if (Cipher.Priority.read? p).isSome then _ else _) = _ ↔ _
    split
    · next h => exact ⟨fun _ => h, fun _ => rfl⟩
    · next h => exact ⟨fun hok => (nomatch hok), fun hsome => absurd hsome h⟩
  minVersion _ _ := rfl
  anchors _ _ := rfl

theorem Context.upheld_loopback :
    Context.Upheld Peer.Network.environment Peer.Loopback.config
      (Peer.Loopback.initialised.2.since (.start (Peer.Loopback.bundled []))) Peer.Loopback.made ∧
    Peer.Network.environment.Takes (fun p => (Cipher.Priority.read? p).isSome = true) ∧
    (Cipher.Priority.read? "HIGH").isSome = true ∧
    (Cipher.Priority.read? "NONSENSE").isSome = false :=
  ⟨Context.upheld Peer.Loopback.initialised_eq, Peer.Network.takes, by decide +kernel,
    by decide +kernel⟩

end SecureStream
