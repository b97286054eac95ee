import SecureStream.Proofs.Replay

/-!
# Turns

What has passed with a client about one call: the exchange, what was logged, and what has become of
the client.

* `Turn`, `Client.turn`, `Client.turns`: the turns of a client that is asked alone;
* `turns`, `turnsOf`: the turns of some clients that are asked in any order, and those of one;
* **`conversation_exchanges`**: the turns of a client make up its conversation.
-/

namespace SecureStream

variable {σ κ : Type} {E : Environment σ}

/-- The lines by which the log of a world exceeds that of an earlier one, in order. -/
def World.loggedSince (later earlier : World σ) : List LogLine :=
  (later.lines.take (later.lines.length - earlier.lines.length)).reverse

/-- An exchange with a client, what was logged of it, and the client afterwards. -/
structure Turn where
  exchange : Exchange
  lines : List LogLine
  client : Client

namespace World.Gains

variable {w w' : World σ} {es : List Event} {lines : List LogLine}

theorem loggedSince_eq (h : Gains w w' es lines) : w'.loggedSince w = lines := by
  have hlength : w'.lines.length - w.lines.length = lines.reverse.length := by
    rw [h.lines, List.length_append]
    omega
  rw [loggedSince, hlength, h.lines, List.take_left, List.reverse_reverse]

end World.Gains

section

variable (E)

/-- Answer one call, and keep what has passed. -/
def Client.turn (c : Client) (call : Call) : Act σ Turn := fun w =>
  let ((reply, client), w') := c.answer E call w
  (⟨⟨call, reply, w'.since w⟩, w'.loggedSince w, client⟩, w')

/-- Ask a client that is alone. -/
def Client.turns (c : Client) : List Call → Act σ (List Turn)
  | [] => return []
  | call :: rest => do
    let turn ← c.turn E call
    return turn :: (← turn.client.turns rest)

variable [DecidableEq κ]

/-- Ask one client after the other. -/
def turns (clients : κ → Client) : List (κ × Call) → Act σ (List (κ × Turn))
  | [] => return []
  | (k, call) :: rest => do
    let turn ← (clients k).turn E call
    return (k, turn) :: (← turns (Function.update clients k turn.client) rest)

/-- The turns of one client. -/
def turnsOf (k : κ) (ts : List (κ × Turn)) : List Turn :=
  (ts.filter fun x => x.1 = k).map Prod.snd

end

section

variable [DecidableEq κ] {k j : κ}

theorem turnsOf_cons_self (turn : Turn) (ts : List (κ × Turn)) :
    turnsOf k ((k, turn) :: ts) = turn :: turnsOf k ts := by
  rw [turnsOf, List.filter_cons_of_pos (by simp)]
  rfl

theorem turnsOf_cons_of_ne (h : j ≠ k) (turn : Turn) (ts : List (κ × Turn)) :
    turnsOf k ((j, turn) :: ts) = turnsOf k ts := by
  rw [turnsOf, List.filter_cons_of_neg (by simp [h])]
  rfl

theorem turns_cons (clients : κ → Client) (j : κ) (call : Call) (calls : List (κ × Call))
    (w : World σ) : (turns E clients ((j, call) :: calls) w).1 =
      (j, ((clients j).turn E call w).1) ::
        (turns E (Function.update clients j ((clients j).turn E call w).1.client) calls
          ((clients j).turn E call w).2).1 := rfl

/-- The turns of a client are its conversation. -/
theorem converse_exchanges (calls : List (κ × Call)) (talks : κ → Conversation) (w : World σ)
    (k : κ) : ((converse E talks calls w).1 k).exchanges = (talks k).exchanges ++
      (turnsOf k (turns E (fun j => (talks j).client) calls w).1).map Turn.exchange := by
  induction calls generalizing talks w with
  | nil => exact (List.append_nil _).symm
  | cons x calls ih =>
    obtain ⟨j, call⟩ := x
    let turn := ((talks j).client.turn E call w).1
    let t : Conversation := ⟨turn.client, (talks j).exchanges ++ [turn.exchange]⟩
    have hclients : (fun i => (Function.update talks j t i).client) =
        Function.update (fun i => (talks i).client) j turn.client := by
      funext i
      by_cases hi : i = j
      · rw [hi, Function.update_self, Function.update_self]
      · rw [Function.update_of_ne hi, Function.update_of_ne hi]
    have hrest := ih (Function.update talks j t) ((talks j).client.turn E call w).2
    rw [hclients] at hrest
    rw [turns_cons]
    refine hrest.trans ?_
    by_cases hk : j = k
    · subst hk
      rw [Function.update_self, turnsOf_cons_self, List.map_cons, List.append_assoc]
      rfl
    · rw [Function.update_of_ne (Ne.symm hk), turnsOf_cons_of_ne hk]

theorem conversation_exchanges (clients : κ → Client) (calls : List (κ × Call)) (w : World σ)
    (k : κ) : (conversation E clients calls w k).exchanges =
      (turnsOf k (turns E clients calls w).1).map Turn.exchange :=
  converse_exchanges calls _ w k

end

end SecureStream
