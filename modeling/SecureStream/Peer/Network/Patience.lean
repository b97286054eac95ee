import SecureStream.Peer.Network

/-!
# The network as an environment

Interruptions come to an end, since they are counted and every one of them lowers the count.

* `Network.patience`: the interruptions that are still to come;
* `Network.patience_lt`: an interruption leaves one fewer;
* `Network.environment`: the network as an environment.
-/

namespace SecureStream.Peer.Network

/-- The interruptions that are still to come. -/
def patience (n : Network) : Nat := n.faults.readInterruptions + n.faults.writeInterruptions

/-- An error number that is no interruption is not transient. -/
theorem not_isTransient_os {number : Nat} (h : number ≠ interruption) :
    (SystemError.os number).isTransient = false := by
  simp only [SystemError.isTransient, SystemError.kind, SystemError.Kind.ofNumber]
  split <;> first | rfl | exact absurd rfl h

theorem isTransient_ofSystem {wait : Tls.Failure.Code} {e : SystemError} :
    (Tls.Failure.ofSystem wait e).isTransient = e.isTransient := by
  unfold Tls.Failure.ofSystem
  split <;> rfl

theorem not_isTransient_hidden (e : SystemError) : (hidden e).isTransient = false := by
  unfold hidden Tls.Failure.ofSystem
  cases hk : e.kind <;>
    simp [Tls.Failure.isTransient, Tls.Failure.systemError?, SystemError.isTransient, hk]

/-- An interruption is one fewer to come. -/
theorem patience_lt_of_readFault {n n' : Network} {e : SystemError}
    (h : n.readFault = (some e, n')) (ht : e.isTransient = true) : n'.patience < n.patience := by
  unfold readFault at h
  split at h
  · simp only [Prod.mk.injEq] at h
    rw [← h.2]
    simp only [patience]
    omega
  · split at h
    · next hf =>
      simp only [Prod.mk.injEq, Option.some.injEq] at h
      rw [← h.1, not_isTransient_os hf.2] at ht
      exact absurd ht Bool.false_ne_true
    · simp at h

theorem eq_of_readFault {n n' : Network} (h : n.readFault = (none, n')) : n' = n := by
  unfold readFault at h
  split at h
  · simp at h
  · split at h <;> simp_all

theorem patience_lt_of_writeFault {n n' : Network} {e : SystemError}
    (h : n.writeFault = (some e, n')) (ht : e.isTransient = true) : n'.patience < n.patience := by
  unfold writeFault at h
  split at h
  · simp only [Prod.mk.injEq] at h
    rw [← h.2]
    simp only [patience]
    omega
  · split at h
    · next hf =>
      simp only [Prod.mk.injEq, Option.some.injEq] at h
      rw [← h.1, not_isTransient_os hf.2] at ht
      exact absurd ht Bool.false_ne_true
    · split at h
      · simp only [Prod.mk.injEq, Option.some.injEq] at h
        rw [← h.1] at ht
        exact absurd ht (by decide)
      · simp at h

theorem eq_of_writeFault {n n' : Network} (h : n.writeFault = (none, n')) : n' = n := by
  unfold writeFault at h
  split at h
  · simp at h
  · split at h
    · simp at h
    · split at h <;> simp_all

theorem not_isTransient_of_readEnding {n n' : Network} {e : SystemError}
    (h : n.readEnding = (some e, n')) : e.isTransient = false := by
  unfold readEnding at h
  split at h <;> simp only [Prod.mk.injEq, Option.some.injEq, reduceCtorEq, false_and] at h <;>
    exact h.1 ▸ rfl

theorem not_isTransient_greet (n : Network) : n.greet.1.isTransient = false := by
  unfold greet
  split
  · rcases h : n.readEnding with ⟨_ | e, n'⟩
    · rfl
    · exact isTransient_ofSystem.trans (not_isTransient_of_readEnding h)
  · rfl

/-- Two sides that cannot agree fail for good. -/
theorem not_isTransient_negotiate {n : Network} {request : Tls.Request} {verifier : Verifier}
    {e : Tls.Failure} (h : (n.negotiate request verifier).outcome = .error e) :
    e.isTransient = false := by
  have hr : ∀ {e}, (Except.error refused : Except Tls.Failure Tls.Negotiated) = .error e →
      e.isTransient = false := fun h => Except.error.inj h ▸ rfl
  have hv : ∀ leaf version suite,
      (negotiate.verify request verifier leaf version suite).outcome = .error e →
      e.isTransient = false := by
    intro leaf version suite h
    unfold negotiate.verify at h
    dsimp only at h
    split at h
    · exact nomatch h
    · exact hr h
  unfold negotiate at h
  split at h
  · exact hv _ _ _ h
  · split at h
    · exact hv _ _ _ h
    · exact hr h
  · split at h
    · exact nomatch h
    · exact hr h
  · exact hr h

/-- A handshake that is interrupted leaves one interruption fewer to come. -/
theorem handshake_patience_lt {n : Network} {request : Tls.Request} {verifier : Verifier}
    {e : Tls.Failure} (h : (n.handshake request verifier).1.outcome = .error e)
    (ht : e.isTransient = true) : (n.handshake request verifier).2.patience < n.patience := by
  rcases hw : n.writeFault with ⟨_ | ew, nw⟩
  · obtain rfl := eq_of_writeFault hw
    rcases hr : nw.readFault with ⟨_ | er, nr⟩
    · obtain rfl := eq_of_readFault hr
      simp only [handshake, hw, hr] at h
      split at h
      · rw [← Except.error.inj h, not_isTransient_greet] at ht
        exact absurd ht Bool.false_ne_true
      · split at h
        · next ho => exact nomatch ho.symm.trans h
        · rw [not_isTransient_negotiate h] at ht
          exact absurd ht Bool.false_ne_true
    · simp only [handshake, hw, hr] at h ⊢
      rw [← Except.error.inj h, isTransient_ofSystem] at ht
      have := patience_lt_of_readFault hr ht
      exact this
  · simp only [handshake, hw] at h ⊢
    rw [← Except.error.inj h, isTransient_ofSystem] at ht
    have := patience_lt_of_writeFault hw ht
    exact this

theorem read_patience_lt {n : Network} {room : Nat} {e : SystemError}
    (h : (n.read room).1 = .error e) (ht : e.isTransient = true) :
    (n.read room).2.patience < n.patience := by
  rcases hr : n.readFault with ⟨_ | er, nr⟩
  · obtain rfl := eq_of_readFault hr
    simp only [read, hr] at h
    split at h
    · rcases he : nr.readEnding with ⟨_ | e', n'⟩
      · simp only [he] at h
        exact nomatch h
      · simp only [he] at h
        rw [← Except.error.inj h, not_isTransient_of_readEnding he] at ht
        exact absurd ht Bool.false_ne_true
    · exact nomatch h
  · simp only [read, hr] at h ⊢
    exact patience_lt_of_readFault hr (Except.error.inj h ▸ ht)

theorem write_patience_lt {n : Network} {bytes : List UInt8} {e : SystemError}
    (h : (n.write bytes).1 = .error e) (ht : e.isTransient = true) :
    (n.write bytes).2.patience < n.patience := by
  cases bytes with
  | nil =>
    rw [← Except.error.inj h] at ht
    exact absurd ht Bool.false_ne_true
  | cons b bs =>
    rcases hw : n.writeFault with ⟨_ | ew, nw⟩
    · simp only [write, hw] at h
      exact nomatch h
    · simp only [write, hw] at h ⊢
      exact patience_lt_of_writeFault hw (Except.error.inj h ▸ ht)

theorem not_isTransient_takeRecord {n : Network} {room : Nat} {b : UInt8} {bs : List UInt8}
    {e : Tls.Failure} (h : (n.takeRecord room b bs).1 = .error e) : e.isTransient = false := by
  unfold takeRecord at h
  split at h
  · exact nomatch h
  · exact Except.error.inj h ▸ rfl

theorem tlsRead_patience_lt {n : Network} {room : Nat} {e : Tls.Failure}
    (h : (n.tlsRead room).1 = .error e) (ht : e.isTransient = true) :
    (n.tlsRead room).2.patience < n.patience := by
  unfold tlsRead at h ⊢
  split
  · next ho =>
    simp only [ho] at h
    rw [not_isTransient_takeRecord h] at ht
    exact absurd ht Bool.false_ne_true
  · next ho =>
    simp only [ho] at h
    split at h
    · exact absurd (Except.error.inj h ▸ ht) (by decide)
    · next hs =>
      rw [if_neg hs]
      rcases hr : n.readFault with ⟨_ | er, nr⟩
      · obtain rfl := eq_of_readFault hr
        simp only [hr] at h
        split at h
        · rw [not_isTransient_takeRecord h] at ht
          exact absurd ht Bool.false_ne_true
        · rcases he : nr.readEnding with ⟨_ | e', n'⟩
          · simp only [he] at h
            split at h <;> exact absurd (Except.error.inj h ▸ ht) (by decide)
          · simp only [he] at h
            rw [← Except.error.inj h, isTransient_ofSystem, not_isTransient_of_readEnding he] at ht
            exact absurd ht Bool.false_ne_true
      · simp only [hr] at h ⊢
        rw [← Except.error.inj h, isTransient_ofSystem] at ht
        exact patience_lt_of_readFault hr ht

theorem not_isTransient_tlsWrite {n : Network} {bytes : List UInt8} {e : Tls.Failure}
    (h : (n.tlsWrite bytes).1 = .error e) : e.isTransient = false := by
  rcases hw : n.writeFault with ⟨_ | ew, nw⟩
  · simp only [tlsWrite, hw] at h
    split at h
    · exact nomatch h
    · exact Except.error.inj h ▸ rfl
  · simp only [tlsWrite, hw] at h
    exact Except.error.inj h ▸ not_isTransient_hidden ew

/-- Every interruption leaves one fewer to come. -/
theorem patience_lt (op : Op) (n : Network) (h : op.isTransient (answer op n).1 = true) :
    (answer op n).2.patience < n.patience := by
  cases op with
  | read s room =>
    change (Op.read s room).isTransient (n.read room).1 = true at h
    cases he : (n.read room).1 with
    | error e => exact read_patience_lt he (by rw [he] at h; exact h)
    | ok _ => rw [he] at h; exact absurd h Bool.false_ne_true
  | write s bytes =>
    change (Op.write s bytes).isTransient (n.write bytes).1 = true at h
    cases he : (n.write bytes).1 with
    | error e => exact write_patience_lt he (by rw [he] at h; exact h)
    | ok _ => rw [he] at h; exact absurd h Bool.false_ne_true
  | handshake s request verifier =>
    simp only [answer, Op.isTransient] at h
    split at h
    · next he => exact handshake_patience_lt he h
    · exact absurd h Bool.false_ne_true
  | tlsRead s room =>
    change (Op.tlsRead s room).isTransient (n.tlsRead room).1 = true at h
    cases he : (n.tlsRead room).1 with
    | error e => exact tlsRead_patience_lt he (by rw [he] at h; exact h)
    | ok _ => rw [he] at h; exact absurd h Bool.false_ne_true
  | tlsWrite s bytes =>
    change (Op.tlsWrite s bytes).isTransient (n.tlsWrite bytes).1 = true at h
    cases he : (n.tlsWrite bytes).1 with
    | error e =>
      rw [he] at h
      exact absurd (h.symm.trans (not_isTransient_tlsWrite he)) (by decide)
    | ok _ => rw [he] at h; exact absurd h Bool.false_ne_true
  | _ => exact absurd h Bool.false_ne_true

/-- The network as an environment. -/
def environment : Environment Network := ⟨answer, patience, patience_lt⟩

end SecureStream.Peer.Network
