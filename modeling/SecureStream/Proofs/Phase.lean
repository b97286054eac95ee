import SecureStream.Proofs.Emission

/-!
# The phases of a connection over TLS

The order in which a client over TLS may make its operations: look for the peer, connect, take a
second socket, shake hands over it, read and write records, announce the end, shut the connection
down.

* `Phase`: how far a connection has come;
* `Phase.Step`, `Phase.Path`: the events that lead from phase to phase;
* **`Phase.Path.not_isRaw`**: there are no raw bytes on any path.
-/

namespace SecureStream

/-- How far a connection over TLS has come. -/
inductive Phase
  /-- There is no connection. -/
  | idle
  | connected (s : Socket)
  /-- The second socket is there, and the handshake has not been decided. -/
  | shaking (s second : Socket)
  /-- The handshake has succeeded. -/
  | secured (s second : Socket)
  /-- The end of the session has been announced, or could not be announced. -/
  | announced (s : Socket)
  /-- There is no session, and the connection has to be shut down. -/
  | failed (s : Socket)

namespace Phase

/-- The phase after an attempt at the handshake. -/
def afterAttempt (s second : Socket) : Except Tls.Failure Tls.Negotiated → Phase
  | .ok _ => secured s second
  | .error e => if e.isTransient then shaking s second else failed s

/-- One event leads from one phase to another. A connection whose time limits cannot be set is given
up without more ado. -/
inductive Step : Phase → Event → Phase → Prop
  | setUp {step a} : Step idle ⟨.setUp step, a⟩ idle
  | set {setting a} : Step idle ⟨.set setting, a⟩ idle
  | resolve {host port a} : Step idle ⟨.resolve host port, a⟩ idle
  | socket {address a} : Step idle ⟨.socket address, a⟩ idle
  | noDelay {s a} : Step idle ⟨.noDelay s, a⟩ idle
  | keepAlive {s seconds a} : Step idle ⟨.keepAlive s seconds, a⟩ idle
  | refused {s address limit e} : Step idle ⟨.connect s address limit, .error e⟩ idle
  | connect {s address limit} : Step idle ⟨.connect s address limit, .ok ()⟩ (connected s)
  | readLimit {s limit} : Step (connected s) ⟨.readLimit s limit, .ok ()⟩ (connected s)
  | noReadLimit {s limit e} : Step (connected s) ⟨.readLimit s limit, .error e⟩ idle
  | writeLimit {s limit} : Step (connected s) ⟨.writeLimit s limit, .ok ()⟩ (connected s)
  | noWriteLimit {s limit e} : Step (connected s) ⟨.writeLimit s limit, .error e⟩ idle
  | duplicate {s second} : Step (connected s) ⟨.duplicate s, .ok second⟩ (shaking s second)
  | noDuplicate {s e} : Step (connected s) ⟨.duplicate s, .error e⟩ (failed s)
  | handshake {s second request verifier a} :
    Step (shaking s second) ⟨.handshake second request verifier, a⟩
      (afterAttempt s second a.outcome)
  | record {s second ev} : ev.op.IsRecord second → Step (secured s second) ev (secured s second)
  | announce {s second a} : Step (secured s second) ⟨.tlsShutdown second, a⟩ (announced s)
  | shutdown {s a} : Step (announced s) ⟨.shutdown s, a⟩ idle
  | cleanUp {s a} : Step (failed s) ⟨.shutdown s, a⟩ idle

/-- Some events lead from one phase to another. -/
inductive Path : Phase → List Event → Phase → Prop
  | nil {p} : Path p [] p
  | cons {p q r ev es} : Step p ev q → Path q es r → Path p (ev :: es) r

namespace Path

variable {p q r : Phase} {es es' : List Event} {ev : Event}

theorem single (h : Step p ev q) : Path p [ev] q := .cons h .nil

theorem append (h : Path p es q) (h' : Path q es' r) : Path p (es ++ es') r := by
  induction h with
  | nil => exact h'
  | cons hs _ ih => exact .cons hs (ih h')

theorem concat (h : Path p es q) (hs : Step q ev r) : Path p (es ++ [ev]) r :=
  h.append (single hs)

/-- Setting up leaves a connection where it is. -/
theorem of_isSetUp (h : ∀ ev ∈ es, ev.op.IsSetUp) : Path idle es idle := by
  induction es with
  | nil => exact .nil
  | cons ev es ih =>
    obtain ⟨hev, hes⟩ := List.forall_mem_cons.mp h
    obtain ⟨op, a⟩ := ev
    cases op with
    | setUp step => exact .cons .setUp (ih hes)
    | set setting => exact .cons .set (ih hes)
    | _ => exact absurd hev id

/-- Records leave a session where it is. -/
theorem of_isRecord {s second : Socket} (h : ∀ ev ∈ es, ev.op.IsRecord second) :
    Path (secured s second) es (secured s second) := by
  induction es with
  | nil => exact .nil
  | cons ev es ih =>
    obtain ⟨hev, hes⟩ := List.forall_mem_cons.mp h
    exact .cons (.record hev) (ih hes)

end Path

/-- No step moves raw bytes. -/
theorem Step.not_isRaw {p q : Phase} {ev : Event} (h : Step p ev q) : ev.op.isRaw = false := by
  cases h with
  | record hev =>
    obtain ⟨op, a⟩ := ev
    cases op with
    | tlsRead | tlsWrite => rfl
    | _ => exact absurd hev id
  | _ => rfl

/-- **No path moves raw bytes.** -/
theorem Path.not_isRaw {p q : Phase} {es : List Event} (h : Path p es q) :
    ∀ ev ∈ es, ev.op.isRaw = false := by
  induction h with
  | nil => exact fun _ hev => absurd hev List.not_mem_nil
  | cons hs _ ih => exact List.forall_mem_cons.mpr ⟨hs.not_isRaw, ih⟩

end Phase

end SecureStream
