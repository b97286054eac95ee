import SecureStream.Certificate.Info
import SecureStream.Proofs.Literals

/-!
# Alternative names

The alternative names of a certificate are listed in order, with repeats, and those without a text
are left out. What is listed tells the name: a host name that looks like an address, the address,
and the version 6 address that stands for it are three different texts.

* `IpAddress.Written`: the text of an address;
* `GeneralName.Shows`: the text of a name;
* `GeneralName.Tells`: which names have a text, and that it tells the name;
* `Listed`: the texts of some names, in order;
* `Certificate.Usable`: extensions that have alternative names;
* **`CertInfo.altNames_listed`**: what is listed of any certificate.
-/

namespace SecureStream

/-! ## The text of a name -/

namespace IpAddress

/-- The text of an address: a dotted quad, or the recommended text of version 6. -/
inductive Written : IpAddress → List Char → Prop
  | v4 {x : Ipv4} {text : List Char} : x.Written text → Written (v4 x) text
  | v6 {x : Ipv6} {text : List Char} : x.Written text → Written (v6 x) text

theorem written_iff_eq_chars {x : IpAddress} {text : List Char} :
    x.Written text ↔ text = x.chars := by
  constructor
  · rintro (h | h)
    · exact Ipv4.written_iff.mp h
    · exact Ipv6.written_iff.mp h
  · rintro rfl
    cases x with
    | v4 x => exact .v4 (Ipv4.written_iff.mpr rfl)
    | v6 x => exact .v6 (Ipv6.written_iff.mpr rfl)

theorem chars_injective {x y : IpAddress} (h : x.chars = y.chars) : x = y := by
  have hx := ofChars?_chars x
  rw [h, ofChars?_chars y] at hx
  exact (Option.some.inj hx).symm

end IpAddress

namespace GeneralName

/-- An alternative name is shown as a text: a host name that is valid UTF-8, or an address in its
network form. -/
inductive Shows : GeneralName → String → Prop
  | host (text : List Char) : Shows (.dns (Text.utf8 text)) (.ofList ("DNS:".toList ++ text))
  | address {x : IpAddress} {text : List Char} : x.Written text →
    Shows (.ip x.toBytes) (.ofList ("IP:".toList ++ text))

theorem shows_iff {n : GeneralName} {text : String} :
    n.Shows text ↔ n.shown?.map String.ofList = some text := by
  constructor
  · rintro (text | h)
    · rw [shown?, Text.utf8?_utf8]
      rfl
    · rw [shown?, IpAddress.ofBytes?_eq_some_iff.mpr rfl, IpAddress.written_iff_eq_chars.mp h]
      rfl
  · intro h
    cases n with
    | dns octets =>
      simp only [shown?, Option.map_map, Option.map_eq_some_iff] at h
      obtain ⟨host, hhost, rfl⟩ := h
      rw [← Text.utf8_of_utf8? hhost]
      exact .host host
    | ip octets =>
      simp only [shown?, Option.map_map, Option.map_eq_some_iff] at h
      obtain ⟨x, hx, rfl⟩ := h
      rw [IpAddress.ofBytes?_eq_some_iff.mp hx]
      exact .address (IpAddress.written_iff_eq_chars.mpr rfl)
    | other => cases h

theorem Shows.unique {n : GeneralName} {text text' : String} (h : n.Shows text)
    (h' : n.Shows text') : text = text' :=
  Option.some.inj ((shows_iff.mp h).symm.trans (shows_iff.mp h'))

/-- A text tells the kind of its name, and then the name. -/
theorem Shows.eq_of_eq {n n' : GeneralName} {text : String} (h : n.Shows text)
    (h' : n'.Shows text) : n = n' := by
  cases h with
  | host host =>
    generalize htext : String.ofList ("DNS:".toList ++ host) = text at h'
    cases h' with
    | host host' =>
      have hhost := List.append_cancel_left (String.ofList_injective htext)
      rw [hhost]
    | address h' => exact nomatch String.ofList_injective htext
  | @address x text h =>
    generalize htext : String.ofList ("IP:".toList ++ text) = text' at h'
    cases h' with
    | host host' => exact nomatch String.ofList_injective htext
    | address h' =>
      have haddress := List.append_cancel_left (String.ofList_injective htext)
      rw [IpAddress.written_iff_eq_chars.mp h, IpAddress.written_iff_eq_chars.mp h'] at haddress
      rw [IpAddress.chars_injective haddress]

theorem exists_shows_iff {n : GeneralName} : (∃ text, n.Shows text) ↔
    (∃ host, n = .dns (Text.utf8 host)) ∨
      ∃ octets, n = .ip octets ∧ (octets.length = 4 ∨ octets.length = 16) := by
  constructor
  · rintro ⟨_, host | @⟨x, _, h⟩⟩
    · exact .inl ⟨host, rfl⟩
    · exact .inr ⟨_, rfl, IpAddress.exists_toBytes_eq_iff.mp ⟨x, rfl⟩⟩
  · rintro (⟨host, rfl⟩ | ⟨octets, rfl, hlength⟩)
    · exact ⟨_, .host host⟩
    · obtain ⟨x, rfl⟩ := IpAddress.exists_toBytes_eq_iff.mpr hlength
      exact ⟨_, .address (IpAddress.written_iff_eq_chars.mpr rfl)⟩

/-- What there is to say of the text of a name. -/
structure Tells (n : GeneralName) : Prop where
  /-- Host names that are valid UTF-8 have one, and addresses of 4 or 16 bytes. -/
  shown_iff : (∃ text, n.Shows text) ↔ (∃ host, n = .dns (Text.utf8 host)) ∨
    ∃ octets, n = .ip octets ∧ (octets.length = 4 ∨ octets.length = 16)
  /-- There is no more than one, -/
  unique : ∀ text text', n.Shows text → n.Shows text' → text = text'
  /-- and no other name has it. -/
  apart : ∀ n' text, n.Shows text → n'.Shows text → n = n'

end GeneralName

/-! ## The texts of all names -/

/-- The texts of some names, in order; names without a text are left out. -/
inductive Listed : List GeneralName → List String → Prop
  | nil : Listed [] []
  | shown {n : GeneralName} {names : List GeneralName} {text : String} {texts : List String} :
    n.Shows text → Listed names texts → Listed (n :: names) (text :: texts)
  | skipped {n : GeneralName} {names : List GeneralName} {texts : List String} :
    (∀ text, ¬ n.Shows text) → Listed names texts → Listed (n :: names) texts

theorem listed_filterMap (names : List GeneralName) :
    Listed names (names.filterMap fun n => n.shown?.map String.ofList) := by
  induction names with
  | nil => exact .nil
  | cons n names ih =>
    rw [List.filterMap_cons]
    cases hn : n.shown?.map String.ofList with
    | none =>
      exact .skipped (fun text h => nomatch hn.symm.trans (GeneralName.shows_iff.mp h)) ih
    | some text => exact .shown (GeneralName.shows_iff.mpr hn) ih

namespace Certificate

/-- Among some extensions there is exactly one with alternative names, and its content is some
names. -/
def Usable (extensions : List (Asn1.Oid × List UInt8)) (names : List GeneralName) : Prop :=
  ∃ before content after, extensions = before ++ (altNamesOid, content) :: after ∧
    (∀ e ∈ before ++ after, e.1 ≠ altNamesOid) ∧ GeneralName.decodeAll? content = some names

theorem altNamesOf_eq_some_iff {extensions : List (Asn1.Oid × List UInt8)}
    {names : List GeneralName} : altNamesOf extensions = some names ↔ Usable extensions names := by
  constructor
  · intro h
    rw [altNamesOf] at h
    split at h
    · next oid content hfilter =>
      obtain ⟨before, after, rfl, hbefore, hoid, hafter⟩ := List.filter_eq_cons_iff.mp hfilter
      obtain rfl : oid = altNamesOid := of_decide_eq_true hoid
      refine ⟨before, content, after, rfl, fun e he => ?_, h⟩
      rcases List.mem_append.mp he with he | he
      · simpa using hbefore e he
      · simpa using List.filter_eq_nil_iff.mp hafter e he
    · cases h
  · rintro ⟨before, content, after, rfl, hothers, hcontent⟩
    have hfilter : (before ++ (altNamesOid, content) :: after).filter (·.1 = altNamesOid) =
        [(altNamesOid, content)] := by
      refine List.filter_eq_cons_iff.mpr ⟨before, after, rfl, fun e he => ?_, by simp, ?_⟩
      · simpa using hothers e (List.mem_append_left _ he)
      · exact List.filter_eq_nil_iff.mpr fun e he => by
          simpa using hothers e (List.mem_append_right _ he)
    rw [altNamesOf, hfilter]
    exact hcontent

/-- What is listed of a certificate's alternative names. -/
structure Listing (c : Certificate) : Prop where
  listed : ∀ names, c.altNames = some names → Listed names (CertInfo.ofCertificate c).altNames
  unusable : c.altNames = none → (CertInfo.ofCertificate c).altNames = []

end Certificate

/-- **The alternative names of a certificate are listed in order, all that have a text, and the
text tells the name.** -/
theorem CertInfo.altNames_listed :
    (∀ c : Certificate, c.Listing) ∧ (∀ n : GeneralName, n.Tells) ∧
    ∀ extensions names,
      Certificate.altNamesOf extensions = some names ↔ Certificate.Usable extensions names := by
  refine ⟨fun c => ⟨fun names hnames => ?_, fun hnone => ?_⟩, fun n => ?_, fun _ _ => ?_⟩
  · rw [CertInfo.ofCertificate, hnames]
    exact listed_filterMap names
  · rw [CertInfo.ofCertificate, hnone]
    rfl
  · exact ⟨GeneralName.exists_shows_iff, fun _ _ h h' => h.unique h', fun _ _ h h' => h.eq_of_eq h'⟩
  · exact Certificate.altNamesOf_eq_some_iff

/-- An address, the version 6 address that stands for it, and a host name that looks like it. -/
example : [GeneralName.ip [127, 0, 0, 1],
    .ip (List.replicate 10 0 ++ [0xff, 0xff, 127, 0, 0, 1]),
    .dns (Text.utf8 "127.0.0.1".toList), .ip [127, 0, 0, 1, 0]].filterMap
      (fun n => n.shown?.map String.ofList) =
    ["IP:127.0.0.1", "IP:::ffff:127.0.0.1", "DNS:127.0.0.1"] := by decide +kernel

end SecureStream
