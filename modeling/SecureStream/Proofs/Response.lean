import SecureStream.Peer.Loopback
import SecureStream.Proofs.Emission

/-!
# Receiving a response

A peer sends a response and then announces that there is no more. A client over TLS reads the
records of the response one by one, and at most two of them; a plain client reads on until the peer
is done.

* `Environment.DeliversRecords`: what the reads of a session answer, as long as the connection does
  not fail;
* `Environment.DeliversBytes`: what the reads of a plain connection answer;
* `Client.recv_records`, `Client.recv_bytes`: what either kind of client receives;
* **`Client.recv_response`**: the two receive the same exactly if there are at most two records.
-/

namespace SecureStream

variable {σ : Type} {E : Environment σ}

/-! ## What reads answer -/

/-- A read of a session with some room has taken what there was room for from the first record, or
has found that there is no record. What is left is left for the reads after it. -/
def Delivered (Pending : σ → List (List UInt8) → Prop) (room : Nat) (state : σ)
    (a : Except Tls.Failure { bytes : List UInt8 // 0 < bytes.length ∧ bytes.length ≤ room }) :
    List (List UInt8) → Prop
  | [] => a = .error ⟨.zeroReturn, .unknown⟩ ∧ Pending state []
  | r :: rs => a.map Subtype.val = .ok (r.take room) ∧
    Pending state (if r.length ≤ room then rs else r.drop room :: rs)

/-- `Pending` says which records, whole or in part, the peer of a session has sent that have not
been read, before it announced the end. A read that is interrupted leaves them as they are. -/
def Environment.DeliversRecords (E : Environment σ) (s : Socket)
    (Pending : σ → List (List UInt8) → Prop) : Prop :=
  ∀ state records room, Pending state records → 0 < room →
    ((Op.tlsRead s room).isTransient (E.answer (.tlsRead s room) state).1 = true ∧
      Pending (E.answer (.tlsRead s room) state).2 records) ∨
    Delivered Pending room (E.answer (.tlsRead s room) state).2
      (E.answer (.tlsRead s room) state).1 records

/-- A plain read has taken some bytes from the front, at least one if there was any. What is left is
left for the reads after it. -/
def Taken (Pending : σ → List UInt8 → Prop) (room : Nat) (state : σ)
    (a : Except SystemError { bytes : List UInt8 // bytes.length ≤ room }) (bytes : List UInt8) :
    Prop :=
  ∃ taken rest, bytes = taken.val ++ rest ∧ (taken.val = [] → bytes = []) ∧ a = .ok taken ∧
    Pending state rest

/-- `Pending` says which bytes the peer of a plain connection has sent that have not been read,
before it ended the connection. A read that is interrupted leaves them as they are. -/
def Environment.DeliversBytes (E : Environment σ) (s : Socket) (Pending : σ → List UInt8 → Prop) :
    Prop :=
  ∀ state bytes room, Pending state bytes → 0 < room →
    ((Op.read s room).isTransient (E.answer (.read s room) state).1 = true ∧
      Pending (E.answer (.read s room) state).2 bytes) ∨
    Taken Pending room (E.answer (.read s room) state).2 (E.answer (.read s room) state).1 bytes

/-! ## Sessions -/

theorem Delivered.not_isTransient {Pending : σ → List (List UInt8) → Prop} {s : Socket}
    {room : Nat} {state : σ} {a : (Op.tlsRead s room).Answer} {records : List (List UInt8)}
    (h : Delivered Pending room state a records) : (Op.tlsRead s room).isTransient a = false := by
  cases records with
  | nil =>
    rw [h.1]
    rfl
  | cons r rs =>
    cases a with
    | error e => exact nomatch h.1
    | ok bytes => rfl

namespace Session

variable {s : Socket} {Pending : σ → List (List UInt8) → Prop} {room : Nat}
  {records : List (List UInt8)}

theorem readRecord_of_ok {w w' : World σ}
    {bytes : { bytes : List UInt8 // 0 < bytes.length ∧ bytes.length ≤ room }}
    (h : persist E (.tlsRead s room) w = (.ok bytes, w')) :
    readRecord E s room w = (.ok bytes.val, w') := by
  rw [readRecord, bind_of_eq h]
  rfl

theorem readRecord_of_isEndOfStream {w w' : World σ} {e : Tls.Failure}
    (h : persist E (.tlsRead s room) w = (.error e, w')) (he : e.isEndOfStream = true) :
    readRecord E s room w = (.ok [], w') := by
  rw [readRecord, bind_of_eq h]
  dsimp only
  rw [if_pos he]
  rfl

/-- A read finds the end if there are no records left, and gets the first one as a whole if there is
room for it. -/
theorem readRecord_eq (hE : E.DeliversRecords s Pending) (hroom : 0 < room)
    (hfit : records.flatten.length ≤ room) (w : World σ) (hw : Pending w.state records) :
    ∃ w', readRecord E s room w = (.ok (records.headD []), w') ∧ Pending w'.state records.tail := by
  have h := persist_settled (E := E) (.tlsRead s room) (P := fun state => Pending state records)
    (Q := fun a state => Delivered Pending room state a records)
    (fun state h => hE state records room h hroom) (fun _ _ h => h.not_isTransient) w hw
  cases records with
  | nil => exact ⟨_, readRecord_of_isEndOfStream (Prod.ext h.1 rfl) rfl, h.2⟩
  | cons r rs =>
    have hr : r.length ≤ room := by
      rw [List.flatten_cons, List.length_append] at hfit
      omega
    obtain ⟨ha, hw'⟩ := h
    rw [List.take_of_length_le hr] at ha
    rw [if_pos hr] at hw'
    rcases hpersist : persist E (.tlsRead s room) w with ⟨a, w'⟩
    rw [hpersist] at ha hw'
    cases a with
    | error e => exact nomatch ha
    | ok bytes =>
      have hbytes : bytes.val = r := Except.ok.inj ha
      refine ⟨w', ?_, hw'⟩
      rw [readRecord_of_ok hpersist, hbytes]
      rfl

/-- The first two records, and the others. -/
theorem flatten_split (records : List (List UInt8)) :
    records.flatten = (records.take 2).flatten ++ (records.drop 2).flatten := by
  rw [← List.flatten_append, List.take_append_drop]

/-- The first two of some records. -/
theorem flatten_take_two (records : List (List UInt8)) :
    (records.take 2).flatten = records.headD [] ++ records.tail.headD [] := by
  match records with
  | [] => rfl
  | [r] => simp
  | r :: r' :: rs => simp

/-- **Two reads get the first two records, and no more.** -/
theorem readTwice_eq (hE : E.DeliversRecords s Pending) (hroom : 0 < room)
    (hfit : records.flatten.length ≤ room) (w : World σ) (hw : Pending w.state records) :
    ∃ w', readTwice E s room w = ((.ok (), (records.take 2).flatten), w') := by
  obtain ⟨w₁, hfirst, hw₁⟩ := readRecord_eq hE hroom hfit w hw
  rw [readTwice, bind_of_eq hfirst]
  dsimp only
  by_cases hlt : (records.headD []).length < room
  · rw [if_pos hlt]
    have hfit' : records.tail.flatten.length ≤ room - (records.headD []).length := by
      cases records with
      | nil => exact Nat.zero_le _
      | cons r rs =>
        rw [List.flatten_cons, List.length_append] at hfit
        simp only [List.headD_cons, List.tail_cons]
        omega
    obtain ⟨w₂, hsecond, -⟩ := readRecord_eq hE (by omega) hfit' w₁ hw₁
    refine ⟨w₂, ?_⟩
    rw [bind_of_eq hsecond, flatten_take_two]
    rfl
  · rw [if_neg hlt]
    -- The first record has taken all the room, and since all records fit, it was the only one.
    have hrest : records.tail.headD [] = [] := by
      have htotal : (records.headD []).length + (records.tail.headD []).length ≤
          records.flatten.length := by
        rw [← List.length_append, ← flatten_take_two, flatten_split records, List.length_append]
        exact Nat.le_add_right _ _
      exact List.eq_nil_of_length_eq_zero (by omega)
    refine ⟨w₁, ?_⟩
    rw [flatten_take_two, hrest, List.append_nil]
    rfl

theorem recv_eq (session : Session) (hE : E.DeliversRecords session.socket Pending)
    {buffer : List UInt8} (hfit : records.flatten.length ≤ buffer.length) (w : World σ)
    (hw : Pending w.state records) :
    (session.recv E buffer w).1 = (.ok (records.take 2).flatten.length,
      Transport.overwrite buffer (records.take 2).flatten) := by
  unfold recv
  by_cases hbuffer : buffer = []
  · have hnil : (records.take 2).flatten = [] := by
      rw [hbuffer, flatten_split records, List.length_append, List.length_nil] at hfit
      exact List.eq_nil_of_length_eq_zero (by omega)
    rw [if_pos hbuffer, hnil, hbuffer]
    rfl
  · obtain ⟨w', hread⟩ := readTwice_eq hE (List.length_pos_iff.mpr hbuffer) hfit w hw
    rw [if_neg hbuffer, bind_of_eq hread]
    rfl

end Session

/-! ## Plain connections -/

theorem Taken.not_isTransient {Pending : σ → List UInt8 → Prop} {s : Socket} {room : Nat}
    {state : σ} {a : (Op.read s room).Answer} {bytes : List UInt8}
    (h : Taken Pending room state a bytes) : (Op.read s room).isTransient a = false := by
  obtain ⟨taken, rest, -, -, rfl, -⟩ := h
  rfl

namespace Transport

variable {s : Socket} {Pending : σ → List UInt8 → Prop}

/-- Reading on gets everything up to the end, if there is room for it. -/
theorem readAll_eq (hE : E.DeliversBytes s Pending) (room : Nat) {bytes : List UInt8}
    (hfit : bytes.length ≤ room) (w : World σ) (hw : Pending w.state bytes) :
    ∃ w', readAll E s room w = ((.ok (), bytes), w') := by
  induction room using Nat.strongRecOn generalizing bytes w with
  | _ room ih =>
    by_cases hroom : room = 0
    · have hbytes : bytes = [] := List.eq_nil_of_length_eq_zero (by omega)
      rw [readAll, if_pos hroom, hbytes]
      exact ⟨w, rfl⟩
    · obtain ⟨taken, rest, hsplit, hend, htaken, hrest⟩ := persist_settled (E := E) (.read s room)
        (P := fun state => Pending state bytes)
        (Q := fun a state => Taken Pending room state a bytes)
        (fun state h => hE state bytes room h (Nat.pos_of_ne_zero hroom))
        (fun _ _ h => h.not_isTransient) w hw
      rw [readAll, if_neg hroom, bind_of_eq (Prod.ext htaken rfl)]
      dsimp only
      by_cases hnil : taken.val = []
      · rw [if_pos hnil, hend hnil]
        exact ⟨_, rfl⟩
      · have hpos : 0 < taken.val.length := List.length_pos_iff.mpr hnil
        rw [hsplit, List.length_append] at hfit
        obtain ⟨w', hread⟩ := ih (room - taken.val.length) (by omega) (by omega) _ hrest
        refine ⟨w', ?_⟩
        rw [if_neg hnil, bind_of_eq hread, hsplit]
        rfl

theorem recv_eq {t : Transport} (ht : t.stream = some s) (hE : E.DeliversBytes s Pending)
    {bytes buffer : List UInt8} (hfit : bytes.length ≤ buffer.length) (w : World σ)
    (hw : Pending w.state bytes) :
    (t.recv E buffer w).1 = (.ok bytes.length, overwrite buffer bytes) := by
  obtain ⟨w', hread⟩ := readAll_eq hE buffer.length hfit w hw
  rw [recv, ht]
  dsimp only
  rw [bind_of_eq hread]
  rfl

end Transport

/-! ## A peer with a script -/

namespace Peer

/-- Nothing is lost when records are split. -/
theorem Link.splitRecords_append (count : Nat) (rs : List (List UInt8)) :
    (Link.splitRecords count rs).1 ++ (Link.splitRecords count rs).2.flatten = rs.flatten := by
  induction rs generalizing count with
  | nil => rfl
  | cons r rs ih =>
    unfold Link.splitRecords
    dsimp only
    split
    · next hlt =>
      have hr : r.take count = r := List.take_of_length_le (by rw [List.length_take] at hlt; omega)
      rw [hr, List.append_assoc, ih, List.flatten_cons]
    · rw [List.flatten_cons, List.flatten_cons, ← List.append_assoc, List.take_append_drop]

/-- There is something in front if there is something at all. -/
theorem Link.flatten_eq_nil_of_splitRecords {count : Nat} (hcount : 0 < count)
    {rs : List (List UInt8)} (h : (Link.splitRecords count rs).1 = []) : rs.flatten = [] := by
  induction rs with
  | nil => rfl
  | cons r rs ih =>
    unfold Link.splitRecords at h
    dsimp only at h
    split at h
    · next hlt =>
      obtain ⟨hr, hrest⟩ := List.append_eq_nil_iff.mp h
      rw [hr, List.length_nil, Nat.sub_zero] at hrest
      have hnil : r = [] := by
        rcases List.take_eq_nil_iff.mp hr with hzero | hnil
        · omega
        · exact hnil
      rw [List.flatten_cons, hnil, List.nil_append]
      exact ih hrest
    · next hlt =>
      have hnil : r.take count = [] := h
      rw [hnil, List.length_nil] at hlt
      exact absurd hcount hlt

namespace Network

/-- The peer of a session has sent some records, of which the client may have read a part of the
first one, and has announced the end. No read fails. -/
structure HoldsRecords (n : Network) (records : List (List UInt8)) : Prop where
  read : n.faults.read = 0
  ending : n.link.outboxEnding = .notified
  records_eq : records = if n.opened = [] then n.link.outbox else n.opened :: n.link.outbox
  ne_nil : ∀ r ∈ n.link.outbox, r ≠ []
  sawEnd : n.sawEnd = true → records = []

/-- The peer of a plain connection has sent some bytes and then ended it. No read fails. -/
structure HoldsBytes (n : Network) (bytes : List UInt8) : Prop where
  read : n.faults.read = 0
  ending : n.link.outboxEnding = .notified ∨ n.link.outboxEnding = .finished
  bytes_eq : bytes = n.link.outbox.flatten

/-- A fault of a read that does not fail is an interruption. -/
theorem readFault_of_read {n n' : Network} {fault : Option SystemError} (h : n.faults.read = 0)
    (hfault : n.readFault = (fault, n')) :
    (fault = some (.os interruption) ∧ n' =
      { n with faults := { n.faults with readInterruptions := n.faults.readInterruptions - 1 } }) ∨
    (fault = none ∧ n = n') := by
  unfold readFault at hfault
  split at hfault
  · cases hfault
    exact .inl ⟨rfl, rfl⟩
  · rw [if_neg (by simp [h])] at hfault
    cases hfault
    exact .inr ⟨rfl, rfl⟩

theorem delivered_takeRecord {n : Network} {room : Nat} {b : UInt8} {bs : List UInt8}
    (hroom : 0 < room) (hread : n.faults.read = 0) (hending : n.link.outboxEnding = .notified)
    (hne : ∀ r ∈ n.link.outbox, r ≠ []) (hsaw : n.sawEnd = false) :
    Delivered HoldsRecords room (n.takeRecord room b bs).2 (n.takeRecord room b bs).1
      ((b :: bs) :: n.link.outbox) := by
  unfold takeRecord
  rw [dif_pos hroom]
  refine ⟨rfl, hread, hending, ?_, hne, fun h => ?_⟩
  · by_cases hlength : (b :: bs).length ≤ room
    · rw [if_pos hlength, if_pos (List.drop_eq_nil_of_le hlength)]
    · have hrest : (b :: bs).drop room ≠ [] := fun h => hlength (List.drop_eq_nil_iff.mp h)
      rw [if_neg hlength, if_neg hrest]
  · have hsaw' : n.sawEnd = true := h
    rw [hsaw] at hsaw'
    exact nomatch hsaw'

theorem deliversRecords (s : Socket) : environment.DeliversRecords s HoldsRecords := by
  intro n records room hn hroom
  change (Op.isTransient (.tlsRead s room) (n.tlsRead room).1 = true ∧
    HoldsRecords (n.tlsRead room).2 records) ∨
    Delivered HoldsRecords room (n.tlsRead room).2 (n.tlsRead room).1 records
  obtain ⟨hread, hending, hrecords, hne, hsaw⟩ := hn
  unfold tlsRead
  -- A record that was begun is read on without the transport, whose faults do not matter then.
  split
  · next b bs hopened =>
    rw [hopened, if_neg (List.cons_ne_nil b bs)] at hrecords
    have hsaw' : n.sawEnd = false := by
      cases h : n.sawEnd with
      | false => rfl
      | true =>
        rw [hsaw h] at hrecords
        exact nomatch hrecords
    rw [hrecords]
    exact .inr (delivered_takeRecord hroom hread hending hne hsaw')
  · next hopened =>
    rw [if_pos hopened] at hrecords
    split
    · next hended =>
      rw [hsaw hended] at hrecords ⊢
      exact .inr ⟨rfl, hread, hending, by rw [if_pos hopened, hrecords], hne, fun _ => rfl⟩
    · next hnot =>
      rcases hfault : n.readFault with ⟨fault, n'⟩
      rcases readFault_of_read hread hfault with ⟨rfl, rfl⟩ | ⟨rfl, rfl⟩
      · refine .inl ⟨rfl, hread, hending, ?_, hne, fun h => absurd h hnot⟩
        rw [hrecords, if_pos hopened]
      · dsimp only
        split
        · next b bs rest houtbox =>
          rw [houtbox] at hne
          rw [hrecords, houtbox]
          exact .inr (delivered_takeRecord hroom hread hending
            (fun r hr => hne r (List.mem_cons_of_mem _ hr)) (eq_false_of_ne_true hnot))
        · next hnone =>
          have houtbox : n.link.outbox = [] := by
            match h : n.link.outbox with
            | [] => rfl
            | [] :: _ => exact absurd rfl (hne [] (by rw [h]; exact List.mem_cons_self))
            | (b :: bs) :: rest => exact absurd h (hnone b bs rest)
          have hreadEnding : n.readEnding = (none, n) := by rw [readEnding, hending]
          rw [hreadEnding]
          dsimp only
          rw [if_pos hending, hrecords, houtbox]
          exact .inr ⟨rfl, hread, hending, by simp [hopened, houtbox], hne, fun _ => rfl⟩

theorem deliversBytes (s : Socket) : environment.DeliversBytes s HoldsBytes := by
  intro n bytes room hn hroom
  change (Op.isTransient (.read s room) (n.read room).1 = true ∧
    HoldsBytes (n.read room).2 bytes) ∨
    Taken HoldsBytes room (n.read room).2 (n.read room).1 bytes
  obtain ⟨hread, hending, hbytes⟩ := hn
  unfold read
  rcases hfault : n.readFault with ⟨fault, n'⟩
  rcases readFault_of_read hread hfault with ⟨rfl, rfl⟩ | ⟨rfl, rfl⟩
  · exact .inl ⟨rfl, hread, hending, hbytes⟩
  · have hcount : 0 < limited n.faults.readLimit room := by
      unfold limited
      split
      · exact hroom
      · omega
    have hreadEnding : n.readEnding = (none, n) := by
      rw [readEnding]
      rcases hending with h | h <;> rw [h]
    dsimp only
    split
    · next hnil =>
      have hempty : bytes = [] := by
        rw [hbytes]
        exact Link.flatten_eq_nil_of_splitRecords hcount hnil
      rw [hreadEnding]
      exact .inr ⟨⟨[], Nat.zero_le _⟩, bytes, rfl, fun _ => hempty, rfl, hread, hending, hbytes⟩
    · next hne =>
      refine .inr ⟨_, _, ?_, fun h => absurd h hne, rfl, hread, hending, rfl⟩
      rw [hbytes]
      exact (Link.splitRecords_append _ _).symm

end Network

end Peer

/-! ## Clients -/

namespace Client

/-- **A client with a session receives the first two records.** -/
theorem recv_records {c : Client} {s : Session} (hc : c.session = some s)
    {Pending : σ → List (List UInt8) → Prop} (hE : E.DeliversRecords s.socket Pending)
    {records : List (List UInt8)} {buffer : List UInt8}
    (hfit : records.flatten.length ≤ buffer.length) (w : World σ) (hw : Pending w.state records) :
    (c.recv E buffer w).1 = (.ok (records.take 2).flatten.length,
      Transport.overwrite buffer (records.take 2).flatten) := by
  rw [recv, hc]
  exact s.recv_eq hE hfit w hw

/-- **A plain client receives everything.** -/
theorem recv_bytes {c : Client} {s : Socket} (hsession : c.session = none)
    (hstream : c.transport.stream = some s) {Pending : σ → List UInt8 → Prop}
    (hE : E.DeliversBytes s Pending) {bytes buffer : List UInt8}
    (hfit : bytes.length ≤ buffer.length) (w : World σ) (hw : Pending w.state bytes) :
    (c.recv E buffer w).1 = (.ok bytes.length, Transport.overwrite buffer bytes) := by
  have h := Transport.recv_eq hstream hE hfit w hw
  rcases hrun : c.transport.recv E buffer w with ⟨⟨r, buffer'⟩, w'⟩
  rw [hrun] at h
  rw [recv, hsession]
  dsimp only
  rw [bind_of_eq hrun]
  cases h
  rfl

/-- Of some records that are not empty, the first two are all exactly if there are no more. -/
theorem flatten_take_two_eq_iff {records : List (List UInt8)} (hne : ∀ r ∈ records, r ≠ []) :
    (records.take 2).flatten.length = records.flatten.length ↔ records.length ≤ 2 := by
  constructor
  · intro h
    rw [Session.flatten_split records, List.length_append] at h
    have hrest : (records.drop 2).flatten = [] := List.eq_nil_of_length_eq_zero (by omega)
    have hnil : records.drop 2 = [] := by
      refine List.eq_nil_iff_forall_not_mem.mpr fun r hr => ?_
      exact hne r (List.mem_of_mem_drop hr) (List.flatten_eq_nil_iff.mp hrest r hr)
    exact List.drop_eq_nil_iff.mp hnil
  · intro h
    rw [List.take_of_length_le h]

/-- **Of a response in some records, a client with a session receives the first two records, and a
plain client everything. What they receive is the same exactly if there are at most two records.**
-/
theorem recv_response {σ' : Type} {E' : Environment σ'} {c p : Client} {s : Session} {t : Socket}
    (hc : c.session = some s) (hp : p.session = none) (ht : p.transport.stream = some t)
    {Pending : σ → List (List UInt8) → Prop} {Pending' : σ' → List UInt8 → Prop}
    (hE : E.DeliversRecords s.socket Pending) (hE' : E'.DeliversBytes t Pending')
    {records : List (List UInt8)} (hne : ∀ r ∈ records, r ≠ []) {buffer : List UInt8}
    (hfit : records.flatten.length ≤ buffer.length) (w : World σ) (hw : Pending w.state records)
    (w' : World σ') (hw' : Pending' w'.state records.flatten) :
    (c.recv E buffer w).1 = (.ok (records.take 2).flatten.length,
        Transport.overwrite buffer (records.take 2).flatten) ∧
      (p.recv E' buffer w').1 = (.ok records.flatten.length,
        Transport.overwrite buffer records.flatten) ∧
      ((c.recv E buffer w).1 = (p.recv E' buffer w').1 ↔ records.length ≤ 2) := by
  have hrecords := recv_records hc hE hfit w hw
  have hbytes := recv_bytes hp ht hE' hfit w' hw'
  refine ⟨hrecords, hbytes, ?_⟩
  rw [hrecords, hbytes, ← flatten_take_two_eq_iff hne]
  constructor
  · intro h
    exact Except.ok.inj (congrArg Prod.fst h)
  · intro h
    have hlength := (flatten_take_two_eq_iff hne).mp h
    rw [List.take_of_length_le hlength]

open Peer

/-- Two records are received as a whole. -/
theorem recv_response_loopback :
    (Loopback.secured [.write [1], .write [2, 3], .notify]).1.session.isSome = true ∧
    Network.HoldsRecords (Loopback.secured [.write [1], .write [2, 3], .notify]).2.state
      [[1], [2, 3]] ∧
    Network.HoldsBytes (Loopback.connected [.write [1], .write [2, 3], .fin]).2.state [1, 2, 3] ∧
    ((Loopback.secured [.write [1], .write [2, 3], .notify]).1.recv Network.environment
        [0, 0, 0, 0] (Loopback.secured [.write [1], .write [2, 3], .notify]).2).1 =
      ((Loopback.connected [.write [1], .write [2, 3], .fin]).1.recv Network.environment
        [0, 0, 0, 0] (Loopback.connected [.write [1], .write [2, 3], .fin]).2).1 := by
  have hsome : (Loopback.secured [.write [1], .write [2, 3], .notify]).1.session.isSome = true := by
    decide +kernel
  have hrecords : Network.HoldsRecords
      (Loopback.secured [.write [1], .write [2, 3], .notify]).2.state [[1], [2, 3]] := by
    constructor <;> decide +kernel
  have hbytes : Network.HoldsBytes
      (Loopback.connected [.write [1], .write [2, 3], .fin]).2.state [1, 2, 3] := by
    constructor <;> decide +kernel
  have hsession :
      (Loopback.connected [.write [1], .write [2, 3], .fin]).1.session.isNone = true := by
    decide +kernel
  have hstream : (Loopback.connected [.write [1], .write [2, 3], .fin]).1.transport.stream =
      some ⟨0⟩ := by decide +kernel
  obtain ⟨s, hs⟩ := Option.isSome_iff_exists.mp hsome
  have hne : ∀ r ∈ ([[1], [2, 3]] : List (List UInt8)), r ≠ [] := by decide
  have hfit : ([[1], [2, 3]] : List (List UInt8)).flatten.length ≤
      ([0, 0, 0, 0] : List UInt8).length := by decide
  have h := recv_response hs (Option.isNone_iff_eq_none.mp hsession) hstream
    (Network.deliversRecords s.socket) (Network.deliversBytes ⟨0⟩) hne hfit _ hrecords _ hbytes
  exact ⟨hsome, hrecords, hbytes, h.2.2.mpr (by decide)⟩

/-- Three records are not: the client over TLS leaves the last one, and says nothing of it. -/
theorem recv_three_records :
    Network.HoldsRecords
      (Loopback.secured [.write [1], .write [2], .write [3], .notify]).2.state [[1], [2], [3]] ∧
    ((Loopback.secured [.write [1], .write [2], .write [3], .notify]).1.recv Network.environment
        [0, 0, 0] (Loopback.secured [.write [1], .write [2], .write [3], .notify]).2).1 =
      (.ok 2, [1, 2, 0]) ∧
    ((Loopback.connected [.write [1], .write [2], .write [3], .fin]).1.recv Network.environment
        [0, 0, 0] (Loopback.connected [.write [1], .write [2], .write [3], .fin]).2).1 =
      (.ok 3, [1, 2, 3]) := by
  have heq (x : Except ConnectionError Nat × List UInt8) (n : Nat) (bytes : List UInt8)
      (hn : x.1.toOption = some n) (hbytes : x.2 = bytes) : x = (.ok n, bytes) := by
    obtain ⟨r, buffer⟩ := x
    cases r with
    | error e => exact nomatch hn
    | ok m => rw [Option.some.inj hn, ← hbytes]
  refine ⟨?_, heq _ 2 _ ?_ ?_, heq _ 3 _ ?_ ?_⟩
  · constructor <;> decide +kernel
  all_goals decide +kernel

end Client

end SecureStream
