import Mathlib.Data.List.Forall2
import SecureStream.Peer.Loopback
import SecureStream.Proofs.Armour
import SecureStream.Proofs.Preparation

/-!
# Trust anchors

A file is a trust store as a whole or not at all. It is one if every block in it is well-formed,
every one that is labelled as a certificate holds one, and there is at least one of those.

* `Pem.Block.Certifies`: the block holds a certificate;
* `Pem.Holds`, `Pem.certificates_eq_ok_iff`: the blocks of a text, and its certificates;
* `TrustStore.IsWhole`: a store with all of some blocks;
* `TrustStore.Loading`: what becomes of a file that is read as a trust store;
* `Context.Anchored`: the trust anchors of a context that was made in some events;
* **`Context.whole_or_nothing`**: no store and no context has only a part of a file.
-/

namespace SecureStream

variable {σ : Type} {E : Environment σ}

/-! ## The certificates of a text -/

namespace Pem

namespace Block

/-- The block holds a certificate: it has no header, and the certificate stands in front of its
body. -/
structure Certifies (b : Block) (c : Certificate) : Prop where
  header_eq_nil : b.header = []
  decode_body : Certificate.decode? b.body = some c

theorem headerFault?_eq_none_iff {header : List UInt8} :
    headerFault? header = none ↔ header = [] := by
  simp only [headerFault?]
  split_ifs <;> simp_all

theorem certificate_eq_ok_iff {b : Block} {c : Certificate} :
    b.certificate = .ok c ↔ b.Certifies c := by
  unfold certificate
  cases hfault : headerFault? b.header with
  | some errors =>
    refine ⟨fun h => (nomatch h), fun h => ?_⟩
    rw [headerFault?_eq_none_iff.mpr h.header_eq_nil] at hfault
    cases hfault
  | none =>
    have hheader := headerFault?_eq_none_iff.mp hfault
    cases hdecode : Certificate.decode? b.body with
    | none => exact ⟨fun h => (nomatch h), fun h => nomatch hdecode.symm.trans h.decode_body⟩
    | some c' =>
      refine ⟨fun h => ⟨hheader, hdecode.trans (congrArg some (Except.ok.inj h))⟩, fun h => ?_⟩
      exact congrArg Except.ok (Option.some.inj (hdecode.symm.trans h.decode_body))

theorem Certifies.unique {b : Block} {c c' : Certificate} (h : b.Certifies c)
    (h' : b.Certifies c') : c = c' :=
  Option.some.inj (h.decode_body.symm.trans h'.decode_body)

end Block

/-- A text holds some blocks, and all of it is well-formed. -/
def Holds (text : List UInt8) (bs : List Block) : Prop := Scan true (Line.split text) bs true

theorem cons_eq_ok_iff {c : Certificate} {cs : List Certificate}
    {x : Except LibraryErrors (List Certificate)} :
    (do return c :: (← x)) = Except.ok cs ↔ ∃ cs', x = .ok cs' ∧ c :: cs' = cs := by
  cases x with
  | error e => exact ⟨fun h => (nomatch h), fun ⟨_, h, _⟩ => nomatch h⟩
  | ok cs' =>
    refine ⟨fun h => ⟨cs', rfl, Except.ok.inj h⟩, ?_⟩
    rintro ⟨_, ⟨⟩, rfl⟩
    rfl

theorem certificatesOf_eq_ok_iff {bs : List Block} {intact : Bool} {errors : LibraryErrors}
    {cs : List Certificate} :
    certificatesOf (bs.map .block ++ if intact then [] else [.broken errors]) = .ok cs ↔
      intact = true ∧ List.Forall₂ Block.Certifies (bs.filter Block.isCertificate) cs := by
  induction bs generalizing cs with
  | nil =>
    cases intact with
    | false => exact ⟨fun h => (nomatch h), fun h => nomatch h.1⟩
    | true => simp [certificatesOf, eq_comm]
  | cons b bs ih =>
    rw [List.map_cons, List.cons_append, certificatesOf, List.filter_cons]
    by_cases hlabel : b.isCertificate = true
    · rw [if_pos hlabel, if_pos hlabel, List.forall₂_cons_left_iff]
      cases hb : b.certificate with
      | error e =>
        refine ⟨fun h => (nomatch h), ?_⟩
        rintro ⟨-, c, _, hc, -⟩
        cases hb.symm.trans (Block.certificate_eq_ok_iff.mpr hc)
      | ok c =>
        have hc := Block.certificate_eq_ok_iff.mp hb
        refine cons_eq_ok_iff.trans ?_
        constructor
        · rintro ⟨cs', hcs', rfl⟩
          exact ⟨(ih.mp hcs').1, c, cs', hc, (ih.mp hcs').2, rfl⟩
        · rintro ⟨hintact, c', cs', hc', hcs', rfl⟩
          exact ⟨cs', ih.mpr ⟨hintact, hcs'⟩, congrArg (· :: cs') (hc.unique hc')⟩
    · rw [if_neg hlabel, if_neg hlabel, ih]

/-- All certificates of a text are those of its blocks with the label of one, and each of these has
to hold one. -/
theorem certificates_eq_ok_iff {text : List UInt8} {cs : List Certificate} :
    certificates text = .ok cs ↔
      ∃ bs, Holds text bs ∧ List.Forall₂ Block.Certifies (bs.filter Block.isCertificate) cs := by
  obtain ⟨bs, intact, hscan⟩ := Scan.exists_scan true (Line.split text)
  obtain ⟨errors, hitems⟩ := hscan.itemsFrom_eq
  rw [certificates, items, hitems, certificatesOf_eq_ok_iff]
  constructor
  · rintro ⟨rfl, hcs⟩
    exact ⟨bs, hscan, hcs⟩
  · rintro ⟨bs', hholds, hcs⟩
    obtain ⟨rfl, rfl⟩ := hscan.unique hholds
    exact ⟨rfl, hcs⟩

end Pem

/-! ## Trust stores -/

namespace TrustStore

open Pem

theorem nodup_eraseDups {α : Type} [DecidableEq α] : ∀ xs : List α, xs.eraseDups.Nodup
  | [] => List.nodup_nil
  | x :: xs => by
    rw [List.eraseDups_cons, List.nodup_cons]
    refine ⟨fun hx => ?_, nodup_eraseDups _⟩
    have hne := (List.mem_filter.mp (List.mem_eraseDups.mp hx)).2
    simp at hne
termination_by xs => xs.length
decreasing_by exact Nat.lt_succ_of_le (List.length_filter_le _ _)

/-- A store holds all certificates of some blocks. -/
structure IsWhole (t : TrustStore) (path : String) (bs : List Block) : Prop where
  path_eq : t.path = path
  /-- The certificates are in the order of their blocks, with repeats. -/
  certificates : List.Forall₂ Block.Certifies (bs.filter Block.isCertificate) t.certificates
  /-- Repeats count, -/
  size_eq : t.size = (bs.filter Block.isCertificate).length
  /-- but the anchors are a set. -/
  nodup_anchors : t.anchors.Nodup
  mem_anchors_iff : ∀ c, c ∈ t.anchors ↔ ∃ b ∈ bs, b.isCertificate = true ∧ b.Certifies c
  anchors_ne_nil : t.anchors ≠ []

/-- What becomes of a file that is read as a trust store. -/
structure Loading (path : String) (content : Except SystemError (List UInt8)) : Prop where
  /-- Any content holds one thing, and no byte of it is passed over. -/
  scanned : ∀ text, content = .ok text → (Line.split text).flatMap Line.octets = text ∧
    ∃! scan : List Block × Bool, Scan true (Line.split text) scan.1 scan.2
  /-- A store is made if the file can be read, nothing in it is malformed, and it has a certificate;
  a block with the label of one that does not hold one is malformed, too. -/
  ok_iff : (∃ t, ofFile path content = .ok t) ↔ ∃ text bs, content = .ok text ∧ Holds text bs ∧
    (∃ b ∈ bs, b.isCertificate = true) ∧
    ∀ b ∈ bs, b.isCertificate = true → ∃ c, b.Certifies c
  whole : ∀ t, ofFile path content = .ok t →
    ∃ text bs, content = .ok text ∧ Holds text bs ∧ t.IsWhole path bs
  /-- Every error names the file. -/
  error : ∀ e, ofFile path content = .error e → ∃ reason, e = .trustStore path reason

theorem mem_iff_of_certifies {bs : List Block} {cs : List Certificate} (c : Certificate)
    (h : List.Forall₂ Block.Certifies bs cs) : c ∈ cs ↔ ∃ b ∈ bs, b.Certifies c := by
  induction h with
  | nil => simp
  | @cons b c' bs cs hb _ ih =>
    have heq : b.Certifies c ↔ c = c' := ⟨fun h => h.unique hb, fun h => h ▸ hb⟩
    rw [List.mem_cons, ih, List.exists_mem_cons_iff, heq]

theorem exists_certifies_iff {bs : List Block} :
    (∃ cs, List.Forall₂ Block.Certifies bs cs) ↔ ∀ b ∈ bs, ∃ c, b.Certifies c := by
  induction bs with
  | nil => exact ⟨fun _ => List.forall_mem_nil _, fun _ => ⟨[], .nil⟩⟩
  | cons b bs ih =>
    rw [List.forall_mem_cons, ← ih]
    constructor
    · rintro ⟨_, h⟩
      cases h with
      | cons hb hbs => exact ⟨⟨_, hb⟩, _, hbs⟩
    · rintro ⟨⟨c, hb⟩, cs, hbs⟩
      exact ⟨c :: cs, .cons hb hbs⟩

theorem isWhole_of_certifies {t : TrustStore} {path : String} {bs : List Block}
    (hpath : t.path = path)
    (hcs : List.Forall₂ Block.Certifies (bs.filter Block.isCertificate) t.certificates) :
    t.IsWhole path bs where
  path_eq := hpath
  certificates := hcs
  size_eq := hcs.length_eq.symm
  nodup_anchors := nodup_eraseDups _
  mem_anchors_iff c := by
    rw [anchors, List.mem_eraseDups, mem_iff_of_certifies c hcs]
    simp only [List.mem_filter, and_assoc]
  anchors_ne_nil := by
    obtain ⟨c, hc⟩ := List.exists_mem_of_ne_nil _ t.certificates_ne_nil
    exact List.ne_nil_of_mem (List.mem_eraseDups.mpr hc)

theorem loading (path : String) (content : Except SystemError (List UInt8)) :
    Loading path content := by
  have hwhole : ∀ t, ofFile path content = .ok t →
      ∃ text bs, content = .ok text ∧ Holds text bs ∧ t.IsWhole path bs := by
    intro t ht
    obtain ⟨hpath, text, htext, hcertificates⟩ := ofFile_eq_ok_iff.mp ht
    obtain ⟨bs, hholds, hcs⟩ := certificates_eq_ok_iff.mp hcertificates
    exact ⟨text, bs, htext, hholds, isWhole_of_certifies hpath hcs⟩
  constructor
  case scanned =>
    intro text _
    obtain ⟨bs, intact, hscan⟩ := Scan.exists_scan true (Line.split text)
    refine ⟨Line.flatMap_octets_split text, (bs, intact), hscan, fun scan h => ?_⟩
    obtain ⟨hbs, hintact⟩ := Scan.unique h hscan
    exact Prod.ext hbs hintact
  case ok_iff =>
    constructor
    · rintro ⟨t, ht⟩
      obtain ⟨text, bs, htext, hholds, ht⟩ := hwhole t ht
      refine ⟨text, bs, htext, hholds, ?_, ?_⟩
      · obtain ⟨c, hc⟩ := List.exists_mem_of_ne_nil _ ht.anchors_ne_nil
        obtain ⟨b, hb, hlabel, -⟩ := (ht.mem_anchors_iff c).mp hc
        exact ⟨b, hb, hlabel⟩
      · intro b hb hlabel
        exact exists_certifies_iff.mp ⟨_, ht.certificates⟩ b (List.mem_filter.mpr ⟨hb, hlabel⟩)
    · rintro ⟨text, bs, htext, hholds, ⟨b, hb, hlabel⟩, hall⟩
      have hmem : b ∈ bs.filter Block.isCertificate := List.mem_filter.mpr ⟨hb, hlabel⟩
      obtain ⟨cs, hcs⟩ := exists_certifies_iff.mpr fun b hb =>
        hall b (List.mem_filter.mp hb).1 (List.mem_filter.mp hb).2
      have hne : cs ≠ [] := by
        rintro rfl
        rw [List.forall₂_nil_right_iff.mp hcs] at hmem
        exact List.not_mem_nil hmem
      exact ⟨⟨path, cs, hne⟩, ofFile_eq_ok_iff.mpr ⟨rfl, text, htext,
        certificates_eq_ok_iff.mpr ⟨bs, hholds, hcs⟩⟩⟩
  case whole => exact hwhole
  case error =>
    intro e he
    unfold ofFile at he
    split at he
    · exact ⟨_, (Except.error.inj he).symm⟩
    · split at he
      · exact ⟨_, (Except.error.inj he).symm⟩
      · exact ⟨_, (Except.error.inj he).symm⟩
      · cases he

end TrustStore

/-! ## Contexts -/

namespace Context

variable {config : Config} {ctx : Context} {w w' : World σ}

/-- A program that goes on has a context like any other. -/
theorem init_of_initOrExit (h : (initOrExit E config).run w = (.ok ctx, w')) :
    (init E config).run w = (.ok ctx, w') := by
  simp only [initOrExit, ExceptT.run] at h
  split at h
  · next hinit =>
    cases h
    exact hinit
  · cases h

/-- The trust anchors of a context that was made in some events. -/
structure Anchored (E : Environment σ) (config : Config) (es : List Event) (ctx : Context) :
    Prop where
  /-- They are all the certificates of the file that was read, -/
  whole : ∃ text bs, ⟨.readFile config.caFile, .ok text⟩ ∈ es ∧ Pem.Holds text bs ∧
    ctx.trust.IsWhole config.caFile bs
  /-- the TLS library was given them, and nothing else, -/
  given : ∀ anchors, .setUp (.anchors anchors) ∈ acceptedSteps es ↔ anchors = ctx.trust.anchors
  shared : ctx.library.anchors = ctx.trust.anchors
  /-- and gets them for every session. -/
  settings : ∀ priority library w, ((ctx.settings E priority).run w).1 = .ok library →
    library.anchors = ctx.trust.anchors

theorem anchored (h : (init E config).run w = (.ok ctx, w')) :
    Anchored E config (w'.since w) ctx := by
  have hinit := ((emits_init (E := E) config).since w).2
  rw [h] at hinit
  obtain ⟨release, content, trust, es, hes, hsteps, htrust, rfl⟩ := hinit ctx rfl
  dsimp only at hes
  constructor
  case whole =>
    obtain ⟨text, bs, rfl, hholds, hwhole⟩ :=
      (TrustStore.loading config.caFile content).whole trust htrust
    exact ⟨text, bs, by rw [hes]; simp, hholds, hwhole⟩
  case given =>
    intro anchors
    have haccepted : acceptedSteps (w'.since w) =
        steps trust config.priority config.minVersion := by
      rw [hes, ← hsteps.accepted_eq]
      rfl
    rw [haccepted]
    simp [steps, loaded]
  case shared => rfl
  case settings =>
    intro priority library w hlibrary
    rw [((loaded config trust).prepares_settings priority).eq_of_ok hlibrary, libraryFor_loaded]
    rfl

/-- **No trust store and no context has only a part of a file.** -/
theorem whole_or_nothing (E : Environment σ) :
    (∀ path content, TrustStore.Loading path content) ∧
    ∀ config ctx w w', ((init E config).run w = (.ok ctx, w') ∨
      (initOrExit E config).run w = (.ok ctx, w')) → Anchored E config (w'.since w) ctx := by
  refine ⟨TrustStore.loading, ?_⟩
  rintro config ctx w w' (hinit | hinit)
  · exact anchored hinit
  · exact anchored (init_of_initOrExit hinit)

end Context

open Peer in
theorem Context.whole_or_nothing_loopback :
    Context.Anchored Network.environment Loopback.config
      (Loopback.initialised.2.since (.start (Loopback.bundled []))) Loopback.made ∧
    TrustStore.Loading "ca.pem" (.ok (Loopback.authority.pem ++ Loopback.authority.pem)) ∧
    ((TrustStore.ofFile "ca.pem" (.ok (Loopback.authority.pem ++ Loopback.authority.pem))).map
      fun t => (t.size, t.anchors.length)).toOption = some (2, 1) ∧
    (TrustStore.ofFile "ca.pem"
      (.ok (Loopback.authority.pem ++ Loopback.authority.pem.dropLast.dropLast))).toBool = false :=
  have h := Context.whole_or_nothing Network.environment
  ⟨h.2 _ _ _ _ (.inl Loopback.initialised_eq), h.1 _ _, by decide +kernel, by decide +kernel⟩

end SecureStream
