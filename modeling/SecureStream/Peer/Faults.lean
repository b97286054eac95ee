/-!
# Faults

What goes wrong with the operations of a client.

* `Faults`: error numbers, interruptions and limits;
* `Fault`, `Faults.set`: the kinds of faults, and the faults with one of them changed.
-/

namespace SecureStream.Peer

/-- What goes wrong with the client's operations: error numbers, with zero for none, the numbers of
interruptions still to come, and the greatest numbers of bytes that move at once, with zero for any
number. An error number that says that reading or writing was interrupted is no fault: it would
interrupt them forever. -/
structure Faults where
  socket : Nat
  noDelay : Nat
  keepAlive : Nat
  duplicate : Nat
  shutdown : Nat
  read : Nat
  write : Nat
  readInterruptions : Nat
  writeInterruptions : Nat
  readLimit : Nat
  writeLimit : Nat

/-- A kind of fault. -/
inductive Fault
  | socket
  | noDelay
  | keepAlive
  | duplicate
  | shutdown
  | read
  | write
  | readInterruptions
  | writeInterruptions
  | readLimit
  | writeLimit

namespace Faults

/-- Nothing goes wrong. -/
def none : Faults := ⟨0, 0, 0, 0, 0, 0, 0, 0, 0, 0, 0⟩

/-- The faults with one of them changed; zero ends it. -/
def set (f : Faults) (n : Nat) : Fault → Faults
  | .socket => { f with socket := n }
  | .noDelay => { f with noDelay := n }
  | .keepAlive => { f with keepAlive := n }
  | .duplicate => { f with duplicate := n }
  | .shutdown => { f with shutdown := n }
  | .read => { f with read := n }
  | .write => { f with write := n }
  | .readInterruptions => { f with readInterruptions := n }
  | .writeInterruptions => { f with writeInterruptions := n }
  | .readLimit => { f with readLimit := n }
  | .writeLimit => { f with writeLimit := n }

end Faults

end SecureStream.Peer
