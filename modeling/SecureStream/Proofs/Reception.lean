import SecureStream.Proofs.Conversation
import SecureStream.Proofs.Response

/-!
# Receiving a stream in pieces

A peer sends a stream of bytes and then ends it. A client receives it into one buffer after the
other, whatever their lengths and however the stream comes in: over TLS in records, over a plain
connection in reads of any length.

* `Source`: a stream, and how far one call gets at most;
* `Source.InOrder`: what receiving the stream into some buffers is answered with;
* `Source.FedBy.inOrder`: the answers of all calls from what one call does;
* `advance`, `Source.ofRecords`, `Source.ofBytes`: the stream of a session, which one call follows
  to the end of the next record at most, and that of a plain connection;
* `Environment.CarriesRecords`, `Environment.CarriesBytes`: what reads answer, which may also fail;
* **`Client.recv_inOrder`**: nothing is lost, repeated or put in another place.
-/

namespace SecureStream

variable {σ : Type} {E : Environment σ}

/-! ## Streams and what is received of them -/

/-- What receiving into a buffer is answered with: the number of bytes, and the buffer. -/
abbrev Receipt := Except ConnectionError Nat × List UInt8

/-- The bytes that a receipt is about. -/
def Receipt.piece (r : Receipt) : List UInt8 :=
  match r.1 with
  | .ok n => r.2.take n
  | .error _ => []

/-- The bytes that some receipts are about, in order. -/
def received (receipts : List Receipt) : List UInt8 := receipts.flatMap Receipt.piece

/-- A stream of bytes. One call gets no farther than some number of bytes, which depends on how many
have been received before, and is none only at the end. -/
structure Source where
  stream : List UInt8
  reach : Nat → Nat
  reach_le : ∀ count, reach count ≤ stream.length - count
  reach_pos : ∀ count, count < stream.length → 0 < reach count

namespace Source

variable (src : Source)

/-- How many bytes a buffer gets behind so many bytes of the stream. -/
def share (count : Nat) (buffer : List UInt8) : Nat := min buffer.length (src.reach count)

/-- The bytes that a buffer gets behind so many bytes of the stream. -/
def piece (count : Nat) (buffer : List UInt8) : List UInt8 :=
  (src.stream.drop count).take (src.share count buffer)

/-- What receiving into a buffer is answered with behind so many bytes of the stream. -/
def receipt (count : Nat) (buffer : List UInt8) : Receipt :=
  (.ok (src.share count buffer), Transport.overwrite buffer (src.piece count buffer))

theorem share_le (count : Nat) (buffer : List UInt8) :
    src.share count buffer ≤ src.stream.length - count :=
  Nat.le_trans (Nat.min_le_right _ _) (src.reach_le count)

theorem length_piece (count : Nat) (buffer : List UInt8) :
    (src.piece count buffer).length = src.share count buffer := by
  have h := src.share_le count buffer
  rw [piece, List.length_take, List.length_drop]
  omega

theorem piece_receipt (count : Nat) (buffer : List UInt8) :
    (src.receipt count buffer).piece = src.piece count buffer := by
  have h := src.length_piece count buffer
  change (src.piece count buffer ++ buffer.drop _).take (src.share count buffer) = _
  rw [← h, List.take_left]

theorem received_receipt_cons (count : Nat) (buffer : List UInt8) (receipts : List Receipt) :
    received (src.receipt count buffer :: receipts) =
      src.piece count buffer ++ received receipts := by
  rw [received, List.flatMap_cons, piece_receipt]
  rfl

theorem length_le_of_share_eq_zero {count : Nat} {buffer : List UInt8} (hbuffer : buffer ≠ [])
    (h : src.share count buffer = 0) : src.stream.length ≤ count := by
  refine Nat.le_of_not_lt fun hlt => ?_
  have hpos := src.reach_pos count hlt
  have hlength := List.length_pos_iff.mpr hbuffer
  unfold share at h
  omega

/-- Receipts of some buffers in order, from some place of the stream on. Nothing is said of the
receipts behind one that is a failure. -/
inductive Receipts (Fails : ConnectionError → Prop) :
    Nat → List (List UInt8) → List Receipt → Prop
  | nil {count} : Receipts Fails count [] []
  | next {count buffer buffers receipts} :
    Receipts Fails (count + src.share count buffer) buffers receipts →
    Receipts Fails count (buffer :: buffers) (src.receipt count buffer :: receipts)
  | failed {count buffer buffers e content receipts} : Fails e →
    receipts.length = buffers.length →
    Receipts Fails count (buffer :: buffers) ((.error e, content) :: receipts)

/-- What receiving the stream into some buffers is answered with: each call takes up the stream
where the one before it has left it and gets as far as buffer and stream let it, or fails in one of
some ways. If none fails, a call that gets nothing says that everything has been received, and there
is such a call if there are more calls than bytes. -/
structure InOrder (Fails : ConnectionError → Prop) (buffers : List (List UInt8))
    (receipts : List Receipt) : Prop where
  length_eq : receipts.length = buffers.length
  next : ∀ before r after buffer, receipts = before ++ r :: after →
    buffers[before.length]? = some buffer → (∀ r' ∈ before, r'.1.isOk = true) →
    (∃ e, r.1 = .error e ∧ Fails e) ∨ r = src.receipt (received before).length buffer
  succeeds : (∀ e, ¬ Fails e) → ∀ r ∈ receipts, r.1.isOk = true
  isPrefix : (∀ r ∈ receipts, r.1.isOk = true) → received receipts <+: src.stream
  complete : (∀ r ∈ receipts, r.1.isOk = true) → (∃ r ∈ receipts, r.1 = .ok 0) →
    received receipts = src.stream
  ends : (∀ r ∈ receipts, r.1.isOk = true) → src.stream.length < buffers.length →
    ∃ r ∈ receipts, r.1 = .ok 0

namespace Receipts

variable {src : Source} {Fails : ConnectionError → Prop} {count : Nat}
  {buffers : List (List UInt8)} {receipts : List Receipt}

theorem length_eq (h : Receipts src Fails count buffers receipts) :
    receipts.length = buffers.length := by
  induction h with
  | nil => rfl
  | next _ ih => rw [List.length_cons, List.length_cons, ih]
  | failed _ hlength => rw [List.length_cons, List.length_cons, hlength]

theorem isOk (h : Receipts src Fails count buffers receipts) (hfails : ∀ e, ¬ Fails e) :
    ∀ r ∈ receipts, r.1.isOk = true := by
  induction h with
  | nil => exact fun _ hr => absurd hr List.not_mem_nil
  | next _ ih => exact List.forall_mem_cons.mpr ⟨rfl, ih⟩
  | failed h => exact absurd h (hfails _)

/-- Behind successes only, the next receipt is that of the place that the stream has got to. -/
theorem next_eq (h : Receipts src Fails count buffers receipts) {before after : List Receipt}
    {r : Receipt} {buffer : List UInt8} (hreceipts : receipts = before ++ r :: after)
    (hbuffer : buffers[before.length]? = some buffer) (hbefore : ∀ r' ∈ before, r'.1.isOk = true) :
    (∃ e, r.1 = .error e ∧ Fails e) ∨
      r = src.receipt (count + (received before).length) buffer := by
  induction h generalizing before with
  | nil => exact absurd hreceipts not_split_nil
  | @next count first buffers receipts _ ih =>
    cases before with
    | nil =>
      obtain ⟨rfl, -⟩ := List.cons.inj hreceipts
      obtain rfl : first = buffer := Option.some.inj hbuffer
      exact .inr rfl
    | cons r' before =>
      obtain ⟨rfl, hrest⟩ := List.cons.inj hreceipts
      obtain ⟨-, hbefore⟩ := List.forall_mem_cons.mp hbefore
      rw [received_receipt_cons, List.length_append, length_piece, ← Nat.add_assoc]
      exact ih hrest hbuffer hbefore
  | failed hfails =>
    cases before with
    | nil =>
      obtain ⟨rfl, -⟩ := List.cons.inj hreceipts
      exact .inl ⟨_, rfl, hfails⟩
    | cons r' before =>
      obtain ⟨rfl, -⟩ := List.cons.inj hreceipts
      exact absurd (List.forall_mem_cons.mp hbefore).1 Bool.false_ne_true

theorem received_eq (h : Receipts src Fails count buffers receipts)
    (hok : ∀ r ∈ receipts, r.1.isOk = true) :
    received receipts = (src.stream.drop count).take (received receipts).length := by
  induction h with
  | nil => rfl
  | @next count buffer buffers receipts _ ih =>
    obtain ⟨-, hok⟩ := List.forall_mem_cons.mp hok
    rw [received_receipt_cons, List.length_append, length_piece, List.take_add, List.drop_drop,
      ← ih hok]
    rfl
  | failed => exact absurd (List.forall_mem_cons.mp hok).1 Bool.false_ne_true

theorem isPrefix (h : Receipts src Fails 0 buffers receipts)
    (hok : ∀ r ∈ receipts, r.1.isOk = true) : received receipts <+: src.stream := by
  have heq := h.received_eq hok
  rw [List.drop_zero] at heq
  rw [heq]
  exact List.take_prefix _ _

/-- Once a call gets nothing, all that was left has been received. -/
theorem length_le_of_zero (h : Receipts src Fails count buffers receipts)
    (hbuffers : ∀ buffer ∈ buffers, buffer ≠ []) (hok : ∀ r ∈ receipts, r.1.isOk = true)
    (hzero : ∃ r ∈ receipts, r.1 = .ok 0) :
    src.stream.length ≤ count + (received receipts).length := by
  induction h with
  | nil =>
    obtain ⟨r, hr, -⟩ := hzero
    exact absurd hr List.not_mem_nil
  | @next count buffer buffers receipts _ ih =>
    obtain ⟨hbuffer, hbuffers⟩ := List.forall_mem_cons.mp hbuffers
    obtain ⟨-, hok⟩ := List.forall_mem_cons.mp hok
    rw [received_receipt_cons, List.length_append, length_piece]
    obtain ⟨r, hr, hrzero⟩ := hzero
    rcases List.mem_cons.mp hr with rfl | hr
    · have hle := src.length_le_of_share_eq_zero hbuffer (Except.ok.inj hrzero)
      omega
    · have hle := ih hbuffers hok ⟨r, hr, hrzero⟩
      omega
  | failed => exact absurd (List.forall_mem_cons.mp hok).1 Bool.false_ne_true

/-- As long as each call gets something, there are no more calls than bytes that are left. -/
theorem exists_zero (h : Receipts src Fails count buffers receipts)
    (hok : ∀ r ∈ receipts, r.1.isOk = true) (hlength : src.stream.length - count < buffers.length) :
    ∃ r ∈ receipts, r.1 = .ok 0 := by
  induction h with
  | nil => exact absurd hlength (Nat.not_lt_zero _)
  | @next count buffer buffers receipts _ ih =>
    obtain ⟨-, hok⟩ := List.forall_mem_cons.mp hok
    by_cases hzero : src.share count buffer = 0
    · exact ⟨_, List.mem_cons_self, congrArg Except.ok hzero⟩
    · have hle := src.share_le count buffer
      rw [List.length_cons] at hlength
      obtain ⟨r, hr, hrzero⟩ := ih hok (by omega)
      exact ⟨r, List.mem_cons_of_mem _ hr, hrzero⟩
  | failed => exact absurd (List.forall_mem_cons.mp hok).1 Bool.false_ne_true

theorem inOrder (h : Receipts src Fails 0 buffers receipts)
    (hbuffers : ∀ buffer ∈ buffers, buffer ≠ []) : src.InOrder Fails buffers receipts where
  length_eq := h.length_eq
  next before r after buffer hreceipts hbuffer hbefore := by
    have hnext := h.next_eq hreceipts hbuffer hbefore
    rwa [Nat.zero_add] at hnext
  succeeds := h.isOk
  isPrefix := h.isPrefix
  complete hok hzero := by
    have hle := h.length_le_of_zero hbuffers hok hzero
    rw [Nat.zero_add] at hle
    exact (h.isPrefix hok).eq_of_length_le hle
  ends hok hlength := h.exists_zero hok (by rwa [Nat.sub_zero])

end Receipts

variable {src}

/-- One call gets its share of the stream, or fails. `At` says how many bytes have been received. -/
def FedBy (src : Source) (Fails : ConnectionError → Prop)
    (recv : List UInt8 → Act σ Receipt) (At : World σ → Nat → Prop) : Prop :=
  ∀ w count buffer, At w count → buffer ≠ [] →
    (∃ e, (recv buffer w).1.1 = .error e ∧ Fails e) ∨
    ((recv buffer w).1 = src.receipt count buffer ∧
      At (recv buffer w).2 (count + src.share count buffer))

namespace FedBy

variable {Fails : ConnectionError → Prop} {recv : List UInt8 → Act σ Receipt}
  {At : World σ → Nat → Prop}

theorem mapM_cons_eq (recv : List UInt8 → Act σ Receipt) (buffer : List UInt8)
    (buffers : List (List UInt8)) (w : World σ) :
    ((buffer :: buffers).mapM recv w).1 =
      (recv buffer w).1 :: (buffers.mapM recv (recv buffer w).2).1 := by
  rw [List.mapM_cons]
  rfl

theorem length_mapM (recv : List UInt8 → Act σ Receipt) (buffers : List (List UInt8))
    (w : World σ) : (buffers.mapM recv w).1.length = buffers.length := by
  induction buffers generalizing w with
  | nil => rfl
  | cons buffer buffers ih => rw [mapM_cons_eq, List.length_cons, List.length_cons, ih]

theorem receipts (h : src.FedBy Fails recv At) {buffers : List (List UInt8)}
    (hbuffers : ∀ buffer ∈ buffers, buffer ≠ []) {w : World σ} {count : Nat} (hw : At w count) :
    Receipts src Fails count buffers (buffers.mapM recv w).1 := by
  induction buffers generalizing w count with
  | nil => exact .nil
  | cons buffer buffers ih =>
    obtain ⟨hbuffer, hbuffers⟩ := List.forall_mem_cons.mp hbuffers
    rw [mapM_cons_eq]
    rcases h w count buffer hw hbuffer with ⟨e, he, hfails⟩ | ⟨hreceipt, hnext⟩
    · rw [show (recv buffer w).1 = (.error e, (recv buffer w).1.2) from Prod.ext he rfl]
      exact .failed hfails (length_mapM recv buffers _)
    · rw [hreceipt]
      exact .next (ih hbuffers hnext)

/-- **What one call does to the stream settles all calls.** -/
theorem inOrder (h : src.FedBy Fails recv At) {buffers : List (List UInt8)}
    (hbuffers : ∀ buffer ∈ buffers, buffer ≠ []) {w : World σ} (hw : At w 0) :
    src.InOrder Fails buffers (buffers.mapM recv w).1 :=
  (h.receipts hbuffers hw).inOrder hbuffers

end FedBy

end Source

/-! ## Streams in records -/

/-- What is left of some records after so many bytes of them. A record that is used up is gone. -/
def advance : Nat → List (List UInt8) → List (List UInt8)
  | _, [] => []
  | count, r :: rs => if r.length ≤ count then advance (count - r.length) rs else r.drop count :: rs

section

variable {count : Nat} {records : List (List UInt8)}

theorem flatten_advance (count : Nat) (records : List (List UInt8)) :
    (advance count records).flatten = records.flatten.drop count := by
  induction records generalizing count with
  | nil => rw [advance, List.flatten_nil, List.drop_nil]
  | cons r rs ih =>
    rw [advance, List.flatten_cons, List.drop_append]
    split
    · next hle => rw [ih, List.drop_eq_nil_of_le hle, List.nil_append]
    · next hlt =>
      rw [List.flatten_cons, Nat.sub_eq_zero_of_le (Nat.le_of_not_le hlt), List.drop_zero]

theorem advance_advance (count count' : Nat) (records : List (List UInt8)) :
    advance count' (advance count records) = advance (count + count') records := by
  induction records generalizing count with
  | nil => rfl
  | cons r rs ih =>
    by_cases hle : r.length ≤ count
    · have hle' : r.length ≤ count + count' := by omega
      rw [advance, if_pos hle, ih, advance, if_pos hle']
      congr 1
      omega
    · rw [advance, if_neg hle, advance, advance, List.length_drop]
      by_cases hle' : r.length - count ≤ count'
      · rw [if_pos hle', if_pos (by omega)]
        congr 1
        omega
      · rw [if_neg hle', if_neg (by omega), List.drop_drop]

theorem ne_nil_of_mem_advance (hne : ∀ r ∈ records, r ≠ []) :
    ∀ r ∈ advance count records, r ≠ [] := by
  induction records generalizing count with
  | nil => exact hne
  | cons r rs ih =>
    obtain ⟨-, hrs⟩ := List.forall_mem_cons.mp hne
    rw [advance]
    split
    · exact ih hrs
    · next hlt =>
      exact List.forall_mem_cons.mpr ⟨fun h => hlt (List.drop_eq_nil_iff.mp h), hrs⟩

theorem advance_zero (hne : ∀ r ∈ records, r ≠ []) : advance 0 records = records := by
  cases records with
  | nil => rfl
  | cons r rs =>
    have hr := List.length_pos_iff.mpr (hne r List.mem_cons_self)
    rw [advance, if_neg (by omega), List.drop_zero]

/-- After the first record the others are left. -/
theorem advance_length_head (hne : ∀ r ∈ records, r ≠ []) :
    advance (records.headD []).length records = records.tail := by
  cases records with
  | nil => rfl
  | cons r rs =>
    rw [List.headD_cons, advance, if_pos (Nat.le_refl _), Nat.sub_self]
    exact advance_zero fun r' hr' => hne r' (List.mem_cons_of_mem _ hr')

end

namespace Source

/-- A stream in records, of which none is empty. One call gets to the end of the record behind the
one that is being read. -/
def ofRecords (records : List (List UInt8)) (hne : ∀ r ∈ records, r ≠ []) : Source where
  stream := records.flatten
  reach count := ((advance count records).take 2).flatten.length
  reach_le count := by
    have hlength := congrArg List.length (Session.flatten_split (advance count records))
    rw [flatten_advance, List.length_drop, List.length_append] at hlength
    omega
  reach_pos count hlt := by
    have hne' : ∀ r ∈ advance count records, r ≠ [] := ne_nil_of_mem_advance hne
    have hflatten := flatten_advance count records
    match h : advance count records with
    | [] =>
      rw [h, List.flatten_nil] at hflatten
      exact absurd (List.drop_eq_nil_iff.mp hflatten.symm) (by omega)
    | r :: rs =>
      have hr := List.length_pos_iff.mpr (hne' r (by rw [h]; exact List.mem_cons_self))
      rw [List.take_succ_cons, List.flatten_cons, List.length_append]
      omega

/-- A stream of bytes, which one call follows to its end. -/
def ofBytes (bytes : List UInt8) : Source where
  stream := bytes
  reach count := bytes.length - count
  reach_le _ := Nat.le_refl _
  reach_pos _ hlt := Nat.sub_pos_of_lt hlt

end Source

/-! ## What reads answer -/

/-- A read of a session with some room has failed, or has found that no record is left, or has taken
what there was room for from the first record. -/
inductive RecordRead (Fails : Tls.Failure → Prop) (Left : σ → List (List UInt8) → Prop) (room : Nat)
    (state : σ) :
    Except Tls.Failure { bytes : List UInt8 // 0 < bytes.length ∧ bytes.length ≤ room } →
    List (List UInt8) → Prop
  | failed {e records} : Fails e → e.isTransient = false → e.isEndOfStream = false →
    RecordRead Fails Left room state (.error e) records
  | ended {e} : e.isTransient = false → e.isEndOfStream = true → Left state [] →
    RecordRead Fails Left room state (.error e) []
  | taken {bytes r rs} : bytes.val = r.take room →
    Left state (advance (r.take room).length (r :: rs)) →
    RecordRead Fails Left room state (.ok bytes) (r :: rs)

/-- `Left` says which records, whole or in part, the peer of a session has sent that have not been
read, before it ended the stream. A read that is interrupted leaves them as they are, and one that
fails does so in one of some ways. -/
def Environment.CarriesRecords (E : Environment σ) (s : Socket) (Fails : Tls.Failure → Prop)
    (Left : σ → List (List UInt8) → Prop) : Prop :=
  ∀ state records room, Left state records → 0 < room →
    ((Op.tlsRead s room).isTransient (E.answer (.tlsRead s room) state).1 = true ∧
      Left (E.answer (.tlsRead s room) state).2 records) ∨
    RecordRead Fails Left room (E.answer (.tlsRead s room) state).2
      (E.answer (.tlsRead s room) state).1 records

/-- A read of a plain connection has failed, or has taken some bytes from the front, at least one if
there was any. -/
inductive ByteRead (Fails : SystemError → Prop) (Left : σ → List UInt8 → Prop) (room : Nat)
    (state : σ) : Except SystemError { bytes : List UInt8 // bytes.length ≤ room } →
    List UInt8 → Prop
  | failed {e bytes} : Fails e → e.isTransient = false →
    ByteRead Fails Left room state (.error e) bytes
  | taken {taken rest} : (taken.val = [] → rest = []) → Left state rest →
    ByteRead Fails Left room state (.ok taken) (taken.val ++ rest)

/-- `Left` says which bytes the peer of a plain connection has sent that have not been read, before
it ended the stream. A read that is interrupted leaves them as they are, and one that fails does so
in one of some ways. -/
def Environment.CarriesBytes (E : Environment σ) (s : Socket) (Fails : SystemError → Prop)
    (Left : σ → List UInt8 → Prop) : Prop :=
  ∀ state bytes room, Left state bytes → 0 < room →
    ((Op.read s room).isTransient (E.answer (.read s room) state).1 = true ∧
      Left (E.answer (.read s room) state).2 bytes) ∨
    ByteRead Fails Left room (E.answer (.read s room) state).2
      (E.answer (.read s room) state).1 bytes

theorem RecordRead.not_isTransient {Fails : Tls.Failure → Prop}
    {Left : σ → List (List UInt8) → Prop} {s : Socket} {room : Nat} {state : σ}
    {a : (Op.tlsRead s room).Answer} {records : List (List UInt8)}
    (h : RecordRead Fails Left room state a records) :
    (Op.tlsRead s room).isTransient a = false := by
  cases h with
  | failed _ h | ended h => exact h
  | taken => rfl

theorem ByteRead.not_isTransient {Fails : SystemError → Prop} {Left : σ → List UInt8 → Prop}
    {s : Socket} {room : Nat} {state : σ} {a : (Op.read s room).Answer} {bytes : List UInt8}
    (h : ByteRead Fails Left room state a bytes) : (Op.read s room).isTransient a = false := by
  cases h with
  | failed _ h => exact h
  | taken => rfl

theorem Environment.DeliversRecords.carriesRecords {s : Socket}
    {Left : σ → List (List UInt8) → Prop} (hE : E.DeliversRecords s Left)
    (hne : ∀ state records, Left state records → ∀ r ∈ records, r ≠ []) :
    E.CarriesRecords s (fun _ => False) Left := by
  intro state records room hleft hroom
  refine (hE state records room hleft hroom).imp_right fun h => ?_
  rcases hanswer : E.answer (.tlsRead s room) state with ⟨a, state'⟩
  rw [hanswer] at h
  cases records with
  | nil =>
    obtain ⟨rfl, hleft'⟩ := h
    exact .ended rfl rfl hleft'
  | cons r rs =>
    obtain ⟨ha, hleft'⟩ := h
    cases a with
    | error e => exact nomatch ha
    | ok bytes =>
      refine .taken (Except.ok.inj ha) ?_
      by_cases hle : r.length ≤ room
      · rw [if_pos hle] at hleft'
        rw [List.take_of_length_le hle]
        have h := advance_length_head (hne _ _ hleft)
        rw [List.headD_cons, List.tail_cons] at h
        rwa [h]
      · rw [if_neg hle] at hleft'
        rw [List.length_take, Nat.min_eq_left (by omega), advance, if_neg hle]
        exact hleft'

theorem Environment.DeliversBytes.carriesBytes {s : Socket} {Left : σ → List UInt8 → Prop}
    (hE : E.DeliversBytes s Left) : E.CarriesBytes s (fun _ => False) Left := by
  intro state bytes room hleft hroom
  refine (hE state bytes room hleft hroom).imp_right ?_
  rintro ⟨taken, rest, rfl, hend, ha, hrest⟩
  rw [ha]
  exact .taken (fun h => (List.append_eq_nil_iff.mp (hend h)).2) hrest

namespace Peer.Network

theorem HoldsRecords.ne_nil_of_mem {n : Network} {records : List (List UInt8)}
    (h : n.HoldsRecords records) : ∀ r ∈ records, r ≠ [] := by
  rw [h.records_eq]
  split
  · exact h.ne_nil
  · next hopened => exact List.forall_mem_cons.mpr ⟨hopened, h.ne_nil⟩

theorem carriesRecords (s : Socket) :
    environment.CarriesRecords s (fun _ => False) HoldsRecords :=
  (deliversRecords s).carriesRecords fun _ _ h => h.ne_nil_of_mem

theorem carriesBytes (s : Socket) : environment.CarriesBytes s (fun _ => False) HoldsBytes :=
  (deliversBytes s).carriesBytes

end Peer.Network

/-! ## Sessions -/

namespace Session

variable {s : Socket} {Fails : Tls.Failure → Prop} {Left : σ → List (List UInt8) → Prop}
  {records : List (List UInt8)} {room : Nat}

/-- What a read of a session finds to be left. -/
theorem readRecord_carried (hE : E.CarriesRecords s Fails Left) (hroom : 0 < room) (w : World σ)
    (hw : Left w.state records) :
    (∃ e w', readRecord E s room w = (.error e, w') ∧ Fails e) ∨
    ∃ w', readRecord E s room w = (.ok ((records.headD []).take room), w') ∧
      Left w'.state (advance ((records.headD []).take room).length records) := by
  have h := persist_settled (E := E) (.tlsRead s room) (P := fun state => Left state records)
    (Q := fun a state => RecordRead Fails Left room state a records)
    (fun state h => hE state records room h hroom) (fun _ _ h => h.not_isTransient) w hw
  rcases hpersist : persist E (.tlsRead s room) w with ⟨a, w'⟩
  rw [hpersist] at h
  cases h with
  | @failed e _ hfails _ hend =>
    refine .inl ⟨e, w', ?_, hfails⟩
    rw [readRecord, bind_of_eq hpersist]
    dsimp only
    rw [if_neg (by simp [hend])]
    rfl
  | ended _ hend hleft =>
    rw [List.headD_nil, List.take_nil]
    exact .inr ⟨w', readRecord_of_isEndOfStream hpersist hend, hleft⟩
  | @taken bytes r rs hbytes hleft =>
    refine .inr ⟨w', ?_, hleft⟩
    rw [readRecord_of_ok hpersist, hbytes]
    rfl

/-- Two reads get what there is room for from the first two records. -/
theorem readTwice_carried (hE : E.CarriesRecords s Fails Left) (hne : ∀ r ∈ records, r ≠ [])
    (hroom : 0 < room) (w : World σ) (hw : Left w.state records) :
    (∃ e bytes w', readTwice E s room w = ((.error e, bytes), w') ∧ Fails e) ∨
    ∃ w', readTwice E s room w = ((.ok (), (records.take 2).flatten.take room), w') ∧
      Left w'.state (advance ((records.take 2).flatten.take room).length records) := by
  rcases readRecord_carried hE hroom w hw with ⟨e, w₁, hfirst, hfails⟩ | ⟨w₁, hfirst, hw₁⟩
  · refine .inl ⟨e, [], w₁, ?_, hfails⟩
    rw [readTwice, bind_of_eq hfirst]
    rfl
  rw [readTwice, bind_of_eq hfirst]
  dsimp only
  rw [flatten_take_two, List.take_append]
  by_cases hlt : ((records.headD []).take room).length < room
  · -- The first record was read to its end, and the second read starts with the record behind it.
    have hwhole : (records.headD []).take room = records.headD [] := by
      rw [List.length_take] at hlt
      exact List.take_of_length_le (by omega)
    rw [hwhole] at hlt hw₁ ⊢
    rw [advance_length_head hne] at hw₁
    rw [if_pos hlt]
    rcases readRecord_carried hE (Nat.sub_pos_of_lt hlt) w₁ hw₁ with
      ⟨e, w₂, hsecond, hfails⟩ | ⟨w₂, hsecond, hw₂⟩
    · refine .inl ⟨e, records.headD [], w₂, ?_, hfails⟩
      rw [bind_of_eq hsecond]
      rfl
    · refine .inr ⟨w₂, ?_, ?_⟩
      · rw [bind_of_eq hsecond]
        rfl
      · rw [List.length_append, ← advance_advance, advance_length_head hne]
        exact hw₂
  · have hfull : room - (records.headD []).length = 0 := by
      rw [List.length_take] at hlt
      omega
    rw [hfull, List.take_zero, List.append_nil, if_neg hlt]
    exact .inr ⟨w₁, rfl, hw₁⟩

/-- A session gets its share of the records. -/
theorem fedBy (session : Session) (hE : E.CarriesRecords session.socket Fails Left)
    (hne : ∀ r ∈ records, r ≠ []) :
    (Source.ofRecords records hne).FedBy (fun x => ∃ e, x = .recv e ∧ Fails e)
      (session.recv E) fun w count => Left w.state (advance count records) := by
  intro w count buffer hw hbuffer
  have hpiece : ((advance count records).take 2).flatten.take buffer.length =
      (Source.ofRecords records hne).piece count buffer := by
    change _ = (records.flatten.drop count).take
      (min buffer.length ((advance count records).take 2).flatten.length)
    rw [← flatten_advance, flatten_split (advance count records), ← List.take_take,
      List.take_left]
  rw [recv, if_neg hbuffer]
  rcases readTwice_carried hE (ne_nil_of_mem_advance hne) (List.length_pos_iff.mpr hbuffer) w hw
    with ⟨e, bytes, w', hread, hfails⟩ | ⟨w', hread, hw'⟩
  · refine .inl ⟨.recv e, ?_, e, rfl, hfails⟩
    rw [bind_of_eq hread]
    rfl
  · rw [hpiece] at hread hw'
    rw [advance_advance, Source.length_piece] at hw'
    rw [bind_of_eq hread]
    refine .inr ⟨?_, hw'⟩
    change (Except.ok _, _) = _
    rw [Source.length_piece]
    rfl

end Session

/-! ## Plain connections -/

namespace Transport

variable {s : Socket} {Fails : SystemError → Prop} {Left : σ → List UInt8 → Prop}

/-- Reading on gets what there is room for. -/
theorem readAll_carried (hE : E.CarriesBytes s Fails Left) (room : Nat) {bytes : List UInt8}
    (w : World σ) (hw : Left w.state bytes) :
    (∃ e read w', readAll E s room w = ((.error e, read), w') ∧ Fails e) ∨
    ∃ w', readAll E s room w = ((.ok (), bytes.take room), w') ∧
      Left w'.state (bytes.drop room) := by
  induction room using Nat.strongRecOn generalizing bytes w with
  | _ room ih =>
    by_cases hroom : room = 0
    · rw [readAll, if_pos hroom, hroom]
      exact .inr ⟨w, rfl, hw⟩
    rw [readAll, if_neg hroom]
    have h := persist_settled (E := E) (.read s room) (P := fun state => Left state bytes)
      (Q := fun a state => ByteRead Fails Left room state a bytes)
      (fun state h => hE state bytes room h (Nat.pos_of_ne_zero hroom))
      (fun _ _ h => h.not_isTransient) w hw
    rcases hpersist : persist E (.read s room) w with ⟨a, w₁⟩
    rw [hpersist] at h
    rw [bind_of_eq hpersist]
    cases h with
    | failed hfails => exact .inl ⟨_, [], w₁, rfl, hfails⟩
    | @taken taken rest hend hrest =>
      dsimp only
      by_cases hnil : taken.val = []
      · rw [if_pos hnil, hnil, hend hnil, List.append_nil, List.take_nil, List.drop_nil]
        rw [hend hnil] at hrest
        exact .inr ⟨w₁, rfl, hrest⟩
      · rw [if_neg hnil, List.take_append, List.take_of_length_le taken.property,
          List.drop_append, List.drop_eq_nil_of_le taken.property, List.nil_append]
        have hpos := List.length_pos_iff.mpr hnil
        rcases ih (room - taken.val.length) (by omega) w₁ hrest with
          ⟨e, read, w₂, hread, hfails⟩ | ⟨w₂, hread, hw₂⟩
        · refine .inl ⟨e, taken.val ++ read, w₂, ?_, hfails⟩
          rw [bind_of_eq hread]
          rfl
        · refine .inr ⟨w₂, ?_, hw₂⟩
          rw [bind_of_eq hread]
          rfl

end Transport

/-! ## Clients -/

namespace Client

theorem fedBy_records {c : Client} {s : Session} (hc : c.session = some s)
    {Fails : Tls.Failure → Prop} {Left : σ → List (List UInt8) → Prop}
    (hE : E.CarriesRecords s.socket Fails Left) {records : List (List UInt8)}
    (hne : ∀ r ∈ records, r ≠ []) :
    (Source.ofRecords records hne).FedBy (fun x => ∃ e, x = .recv e ∧ Fails e) (c.recv E)
      fun w count => Left w.state (advance count records) := by
  have hrecv : c.recv E = s.recv E := funext fun buffer => recv_of_session hc buffer
  rw [hrecv]
  exact s.fedBy hE hne

theorem fedBy_bytes {c : Client} {s : Socket} (hsession : c.session = none)
    (hstream : c.transport.stream = some s) {Fails : SystemError → Prop}
    {Left : σ → List UInt8 → Prop} (hE : E.CarriesBytes s Fails Left) (bytes : List UInt8) :
    (Source.ofBytes bytes).FedBy (fun x => ∃ e, x = .transport (.recv e) ∧ Fails e) (c.recv E)
      fun w count => Left w.state (bytes.drop count) := by
  intro w count buffer hw _
  have hpiece : (bytes.drop count).take buffer.length =
      (Source.ofBytes bytes).piece count buffer := by
    change _ = (bytes.drop count).take (min buffer.length (bytes.length - count))
    rw [← List.length_drop, ← List.take_take, List.take_length]
  rw [recv_of_no_session hsession, Transport.recv, hstream]
  dsimp only
  rcases Transport.readAll_carried hE buffer.length w hw with
    ⟨e, read, w', hread, hfails⟩ | ⟨w', hread, hw'⟩
  · rw [bind_assoc, bind_of_eq hread]
    exact .inl ⟨_, rfl, e, rfl, hfails⟩
  · rw [hpiece] at hread
    have hcount : (bytes.drop count).drop buffer.length =
        bytes.drop (count + (Source.ofBytes bytes).share count buffer) := by
      change _ = bytes.drop (count + min buffer.length (bytes.length - count))
      rw [List.drop_drop]
      by_cases hle : buffer.length ≤ bytes.length - count
      · rw [Nat.min_eq_left hle]
      · rw [List.drop_eq_nil_of_le (by omega), List.drop_eq_nil_of_le (by omega)]
    rw [hcount] at hw'
    rw [bind_assoc, bind_of_eq hread]
    refine .inr ⟨?_, hw'⟩
    change (Except.ok _, _) = _
    rw [Source.length_piece]
    rfl

/-- **Whatever the lengths of the buffers, a client receives the stream of its peer in order, and
nothing else. A plain client fills each buffer as far as there are bytes left, and one with a
session as far as there are bytes left in the record that is being read and the one behind it. Once
a call gets nothing, everything has been received.** -/
theorem recv_inOrder {σ' : Type} {E' : Environment σ'} {c p : Client} {s : Session} {t : Socket}
    (hc : c.session = some s) (hp : p.session = none) (ht : p.transport.stream = some t)
    {Fails : Tls.Failure → Prop} {Left : σ → List (List UInt8) → Prop}
    (hE : E.CarriesRecords s.socket Fails Left) {Fails' : SystemError → Prop}
    {Left' : σ' → List UInt8 → Prop} (hE' : E'.CarriesBytes t Fails' Left')
    {records : List (List UInt8)} (hne : ∀ r ∈ records, r ≠ []) {bytes : List UInt8}
    {buffers : List (List UInt8)} (hbuffers : ∀ buffer ∈ buffers, buffer ≠ []) (w : World σ)
    (hw : Left w.state records) (w' : World σ') (hw' : Left' w'.state bytes) :
    (Source.ofRecords records hne).InOrder (fun x => ∃ e, x = .recv e ∧ Fails e) buffers
        (buffers.mapM (c.recv E) w).1 ∧
      (Source.ofBytes bytes).InOrder (fun x => ∃ e, x = .transport (.recv e) ∧ Fails' e) buffers
        (buffers.mapM (p.recv E') w').1 := by
  have hw₀ : Left w.state (advance 0 records) := by rwa [advance_zero hne]
  exact ⟨(fedBy_records hc hE hne).inOrder hbuffers hw₀,
    (fedBy_bytes hp ht hE' bytes).inOrder hbuffers hw'⟩

open Peer

/-- Records that end within a buffer, at its end and behind it. -/
theorem recv_inOrder_loopback :
    (Loopback.secured [.write [1, 2, 3], .write [4], .write [5], .notify]).1.session.isSome = true ∧
    Network.HoldsRecords
      (Loopback.secured [.write [1, 2, 3], .write [4], .write [5], .notify]).2.state
      [[1, 2, 3], [4], [5]] ∧
    Network.HoldsBytes (Loopback.connected [.write [1, 2, 3], .write [4], .fin]).2.state
      [1, 2, 3, 4] ∧
    (Source.ofRecords [[1, 2, 3], [4], [5]] (by decide)).InOrder
      (fun x => ∃ e, x = .recv e ∧ False) [[0, 0], [0, 0, 0], [0], [0]]
      ([[0, 0], [0, 0, 0], [0], [0]].mapM
        ((Loopback.secured [.write [1, 2, 3], .write [4], .write [5], .notify]).1.recv
          Network.environment)
        (Loopback.secured [.write [1, 2, 3], .write [4], .write [5], .notify]).2).1 ∧
    (Source.ofBytes [1, 2, 3, 4]).InOrder
      (fun x => ∃ e, x = .transport (.recv e) ∧ False) [[0, 0], [0, 0, 0], [0], [0]]
      ([[0, 0], [0, 0, 0], [0], [0]].mapM
        ((Loopback.connected [.write [1, 2, 3], .write [4], .fin]).1.recv Network.environment)
        (Loopback.connected [.write [1, 2, 3], .write [4], .fin]).2).1 := by
  have hsome : (Loopback.secured
      [.write [1, 2, 3], .write [4], .write [5], .notify]).1.session.isSome = true := by
    decide +kernel
  have hrecords : Network.HoldsRecords
      (Loopback.secured [.write [1, 2, 3], .write [4], .write [5], .notify]).2.state
      [[1, 2, 3], [4], [5]] := by
    constructor <;> decide +kernel
  have hbytes : Network.HoldsBytes
      (Loopback.connected [.write [1, 2, 3], .write [4], .fin]).2.state [1, 2, 3, 4] := by
    constructor <;> decide +kernel
  have hsession :
      (Loopback.connected [.write [1, 2, 3], .write [4], .fin]).1.session.isNone = true := by
    decide +kernel
  have hstream : (Loopback.connected [.write [1, 2, 3], .write [4], .fin]).1.transport.stream =
      some ⟨0⟩ := by decide +kernel
  obtain ⟨s, hs⟩ := Option.isSome_iff_exists.mp hsome
  have hne : ∀ r ∈ ([[1, 2, 3], [4], [5]] : List (List UInt8)), r ≠ [] := by decide
  have hbuffers : ∀ buffer ∈ ([[0, 0], [0, 0, 0], [0], [0]] : List (List UInt8)), buffer ≠ [] := by
    decide
  have h := recv_inOrder hs (Option.isNone_iff_eq_none.mp hsession) hstream
    (Network.carriesRecords s.socket) (Network.carriesBytes ⟨0⟩) hne hbuffers _ hrecords _ hbytes
  exact ⟨hsome, hrecords, hbytes, h⟩

end Client

end SecureStream
