import SecureStream.Retry
import SecureStream.Tls.Failure

/-!
# Listed outcomes

Operations whose outcomes are listed beforehand. Both keep count of their attempts, and both come to
a decision since each interruption uses up one item of a list.

* `Listed`: an operation with the outcomes of its attempts, which succeeds behind the end of the
  list;
* `Greeting`: a TLS handshake over a transport whose failures are listed, with a peer that says
  nothing.
-/

namespace SecureStream.Peer

/-- The outcomes of the attempts that are still to come, and the number of attempts so far. -/
structure Listed (α : Type) where
  outcomes : List (Except SystemError α)
  attempts : Nat

namespace Listed

variable {α : Type}

/-- One attempt. Behind the end of the list it succeeds with `last`. -/
def attempt (last : α) (l : Listed α) : Except SystemError α × Listed α :=
  match l.outcomes with
  | [] => (.ok last, ⟨[], l.attempts + 1⟩)
  | o :: os => (o, ⟨os, l.attempts + 1⟩)

/-- The outcome says that the attempt was interrupted. -/
def isTransient : Except SystemError α → Bool
  | .error e => e.isTransient
  | .ok _ => false

theorem bounded_attempt (last : α) :
    Retry.Bounded (attempt last) isTransient fun l => l.outcomes.length := by
  intro l h
  unfold attempt at h ⊢
  split at h
  · exact absurd h Bool.false_ne_true
  · next ho => simp [ho]

/-- The decisive outcome of a list, and what is left of the list. -/
def run (last : α) (outcomes : List (Except SystemError α)) : Except SystemError α × Listed α :=
  Retry.run (bounded_attempt last) ⟨outcomes, 0⟩

end Listed

/-- A transport whose reads and writes fail as listed before they succeed. -/
structure Greeting where
  reads : List SystemError
  writes : List SystemError
  /-- The client's first message has been written. -/
  greeted : Bool
  attempts : Nat

namespace Greeting

/-- Wait for the peer's answer: the transport fails, or it ends. -/
def await (g : Greeting) : Tls.Failure × Greeting :=
  match g.reads with
  | [] => (⟨.syscall, .unknown⟩, g)
  | e :: es => (.ofSystem .wantRead e, { g with reads := es })

/-- One attempt at the handshake, which has to fail: write the first message unless that has been
done, and wait for an answer. -/
def attempt (g : Greeting) : Tls.Failure × Greeting :=
  let g := { g with attempts := g.attempts + 1 }
  if g.greeted then g.await
  else
    match g.writes with
    | [] => { g with greeted := true }.await
    | e :: es => (.ofSystem .wantWrite e, { g with writes := es })

/-- The number of failures that are still to come. -/
def size (g : Greeting) : Nat := g.reads.length + g.writes.length

theorem await_size_lt (g : Greeting) (h : g.await.1.isTransient = true) :
    g.await.2.size < g.size := by
  unfold await at h ⊢
  split at h
  · exact absurd h Bool.false_ne_true
  · next hr => simp [size, hr]

theorem bounded_attempt : Retry.Bounded attempt Tls.Failure.isTransient size := by
  intro g h
  unfold attempt at h ⊢
  dsimp only at h ⊢
  split at h
  · next hg => rw [if_pos hg]; exact await_size_lt _ h
  · next hg =>
    rw [if_neg hg]
    split at h
    · exact await_size_lt _ h
    · next hw => simp [size, hw]

/-- The decisive failure of a handshake over a transport with the given failures. -/
def run (reads writes : List SystemError) : Tls.Failure × Greeting :=
  Retry.run bounded_attempt ⟨reads, writes, false, 0⟩

end Greeting

end SecureStream.Peer
