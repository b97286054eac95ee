import Mathlib.Data.List.DropRight
import SecureStream.Version

/-!
# Spellings of versions

A version is read from its number, which may have a tag in front of it. White space around them does
not matter, nor does the case of ASCII letters, and nothing else is a version.

* `Text.whiteSpace`, `Text.isBlank_iff`: the characters that are white space;
* `Text.lowerChar_eq`, `Text.trim_append`, `Text.trim_map_toLower`: letters in lower case, and white
  space around a text;
* `Version.number_eq_iff`: what is left of a text without its tag;
* `Version.Spelled`, `Version.ofText_ok_iff`: a text spells a version, and is read as that one;
* `Version.Accepted`: which texts are read, and which of them alike;
* **`Version.accepts_spellings`**: that is so for all texts, and every version's own text is read as
  it.
-/

namespace SecureStream

/-! ## White space and letters -/

namespace Text

variable {before cs after : List Char}

theorem lowerChar_eq (c : Char) : lowerChar c = c.toLower := by
  have hcond : ('A' ≤ c ∧ c ≤ 'Z') ↔ (c.val ≥ 'A'.val ∧ c.val ≤ 'Z'.val) := Iff.rfl
  by_cases h : 'A' ≤ c ∧ c ≤ 'Z'
  · have hle : c.val.toNat ≤ 90 := UInt32.le_iff_toNat_le.mp h.2
    have hnat : c.toLower.toNat = c.toNat + 32 := by
      have hlower : c.toLower = _ := dif_pos (hcond.mp h)
      rw [hlower]
      change (c.val + 32).toNat = c.val.toNat + 32
      rw [UInt32.toNat_add]
      exact Nat.mod_eq_of_lt (by change c.val.toNat + 32 < 4294967296; omega)
    rw [lowerChar, if_pos h, ← hnat, Char.ofNat_toNat]
  · have hsame : c.toLower = c := dif_neg (mt hcond.mpr h)
    rw [lowerChar, if_neg h, hsame]

theorem lowerAscii_eq (cs : List Char) : lowerAscii cs = cs.map Char.toLower :=
  List.map_congr_left fun c _ => lowerChar_eq c

/-- White space has no case, and no letter becomes white space. -/
theorem isBlank_toLower (c : Char) : isBlank c.toLower = isBlank c := by
  have hletters : ∀ n : Fin 26, isBlank (Char.ofNat (n + 65)) = false ∧
      isBlank (Char.ofNat (n + 65)).toLower = false := by decide
  by_cases h : 'A' ≤ c ∧ c ≤ 'Z'
  · have hlow : 65 ≤ c.toNat := UInt32.le_iff_toNat_le.mp h.1
    have hhigh : c.toNat ≤ 90 := UInt32.le_iff_toNat_le.mp h.2
    have hletter := hletters ⟨c.toNat - 65, by omega⟩
    rw [Nat.sub_add_cancel hlow, Char.ofNat_toNat] at hletter
    rw [hletter.1, hletter.2]
  · rw [← lowerChar_eq, lowerChar, if_neg h]

/-- The code points with the Unicode property `White_Space`. -/
def whiteSpace : List Nat :=
  [0x09, 0x0A, 0x0B, 0x0C, 0x0D, 0x20, 0x85, 0xA0, 0x1680, 0x2000, 0x2001, 0x2002, 0x2003, 0x2004,
    0x2005, 0x2006, 0x2007, 0x2008, 0x2009, 0x200A, 0x2028, 0x2029, 0x202F, 0x205F, 0x3000]

/-- The blanks are these 25 characters. -/
theorem isBlank_iff (c : Char) : isBlank c = true ↔ c.toNat ∈ whiteSpace := by
  simp only [isBlank, blankRanges, whiteSpace, List.any_cons, List.any_nil, Bool.or_eq_true,
    Bool.and_eq_true, decide_eq_true_eq, Bool.or_false, List.mem_cons, List.not_mem_nil, or_false]
  omega

theorem trim_eq (cs : List Char) : trim cs = (cs.dropWhile isBlank).rdropWhile isBlank := rfl

theorem trim_map_toLower (cs : List Char) :
    trim (cs.map Char.toLower) = (trim cs).map .toLower := by
  have hblank : isBlank ∘ Char.toLower = isBlank := funext isBlank_toLower
  rw [trim_eq, trim_eq, List.dropWhile_map, hblank, List.rdropWhile, List.rdropWhile,
    ← List.map_reverse, List.dropWhile_map, hblank, List.map_reverse]

/-- A text is what is left of it, with white space around. -/
theorem exists_eq_trim (cs : List Char) : ∃ before after,
    (∀ c ∈ before, isBlank c = true) ∧ (∀ c ∈ after, isBlank c = true) ∧
      cs = before ++ trim cs ++ after := by
  refine ⟨cs.takeWhile isBlank, (cs.dropWhile isBlank).rtakeWhile isBlank,
    fun c hc => List.mem_takeWhile_imp hc, fun c hc => List.mem_rtakeWhile_imp hc, ?_⟩
  rw [trim_eq, List.append_assoc, List.rdropWhile_append_rtakeWhile,
    List.takeWhile_append_dropWhile]

/-- White space around a text does not matter. -/
theorem trim_append (hbefore : ∀ c ∈ before, isBlank c = true)
    (hafter : ∀ c ∈ after, isBlank c = true) : trim (before ++ cs ++ after) = trim cs := by
  have hleft : (before ++ cs ++ after).dropWhile isBlank = (cs ++ after).dropWhile isBlank := by
    rw [List.append_assoc, List.dropWhile_append_of_pos hbefore]
  have hright (ds : List Char) : (ds ++ after).rdropWhile isBlank = ds.rdropWhile isBlank := by
    rw [List.rdropWhile, List.rdropWhile, List.reverse_append,
      List.dropWhile_append_of_pos fun c hc => hafter c (List.mem_reverse.mp hc)]
  rw [trim_eq, trim_eq, hleft, List.dropWhile_append]
  split
  · next hnil =>
    rw [List.isEmpty_iff.mp hnil, ← List.nil_append (after.dropWhile isBlank),
      List.dropWhile_eq_nil_iff.mpr hafter, List.nil_append]
  · exact hright _

/-- A text without white space is left as it is. -/
theorem trim_eq_self (h : ∀ c ∈ cs, isBlank c = false) : trim cs = cs := by
  obtain ⟨before, after, hbefore, hafter, heq⟩ := exists_eq_trim cs
  have hnil (ds : List Char) (hds : ∀ c ∈ ds, isBlank c = true) (hsub : ds ⊆ cs) : ds = [] := by
    refine List.eq_nil_iff_forall_not_mem.mpr fun c hc => ?_
    exact Bool.false_ne_true ((h c (hsub hc)).symm.trans (hds c hc))
  have hbefore' : before = [] := hnil before hbefore (by rw [heq]; simp)
  have hafter' : after = [] := hnil after hafter (by rw [heq]; simp)
  rw [hbefore', hafter', List.nil_append, List.append_nil] at heq
  exact heq.symm

end Text

namespace Version

/-! ## Numbers and tags -/

/-- What may stand in front of the number of a version. -/
def tags : List (List Char) := [[], "tls".toList, "tlsv".toList]

/-- The number of a version. -/
def digits : Version → List Char
  | tls12 => "1.2".toList
  | tls13 => "1.3".toList

theorem strip?_eq_some_iff {tag cs rest : List Char} :
    strip? tag cs = some rest ↔ cs = tag ++ rest := by
  unfold strip?
  split
  · next h =>
    obtain ⟨rest', rfl⟩ := List.isPrefixOf_iff_prefix.mp h
    rw [List.drop_left, Option.some_inj, List.append_cancel_left_eq]
  · next h =>
    refine ⟨fun hnone => (nomatch hnone), ?_⟩
    rintro rfl
    exact absurd (List.isPrefixOf_iff_prefix.mpr (List.prefix_append tag rest)) h

/-- The number is left of a text if there is one tag in front of it, or none. -/
theorem number_eq_iff {cs : List Char} {v : Version} :
    number cs = v.digits ↔ ∃ tag ∈ tags, cs = tag ++ v.digits := by
  constructor
  · intro h
    unfold number at h
    cases hlong : strip? ['t', 'l', 's', 'v'] cs with
    | some rest =>
      rw [hlong] at h
      exact ⟨"tlsv".toList, by decide, h ▸ strip?_eq_some_iff.mp hlong⟩
    | none =>
      cases hshort : strip? ['t', 'l', 's'] cs with
      | some rest =>
        rw [hlong, hshort] at h
        exact ⟨"tls".toList, by decide, h ▸ strip?_eq_some_iff.mp hshort⟩
      | none =>
        rw [hlong, hshort] at h
        exact ⟨[], by decide, h⟩
  · rintro ⟨tag, htag, rfl⟩
    have hall : ∀ tag ∈ tags, ∀ v ∈ [tls12, tls13], number (tag ++ v.digits) = v.digits := by
      decide
    exact hall tag htag v (by cases v <;> decide)

/-! ## Texts -/

/-- The text spells a version: a tag, in whatever case, and the version's number, with white space
around them. -/
inductive Spelled : List Char → Version → Prop
  | intro {before word after tag v} : (∀ c ∈ before, c.toNat ∈ Text.whiteSpace) →
    (∀ c ∈ after, c.toNat ∈ Text.whiteSpace) → tag ∈ tags →
    word.map Char.toLower = tag ++ v.digits → Spelled (before ++ word ++ after) v

/-- The number that is read in a text. -/
def heard (cs : List Char) : List Char := number (Text.lowerAscii (Text.trim cs))

/-- The number that is read depends on what stands between the white space, in lower case. -/
theorem heard_eq (cs : List Char) : heard cs = number (Text.trim (cs.map Char.toLower)) := by
  rw [heard, Text.lowerAscii_eq, Text.trim_map_toLower]

/-- What is read of a text is a version, or the error says what the text was. -/
theorem ofText_cases (text : String) : (∃ v, heard text.toList = digits v ∧ ofText text = .ok v) ∨
    (∀ v, heard text.toList ≠ digits v) ∧ ofText text = .error (.invalidVersion text) := by
  rw [ofText, ← heard]
  split
  · next h => exact .inl ⟨tls12, h, rfl⟩
  · next h => exact .inl ⟨tls13, h, rfl⟩
  · next h12 h13 =>
    refine .inr ⟨fun v hv => ?_, rfl⟩
    cases v with
    | tls12 => exact h12 hv
    | tls13 => exact h13 hv

theorem digits_injective : Function.Injective digits := by
  rintro (_ | _) (_ | _) h
  exacts [rfl, absurd h (by decide), absurd h (by decide), rfl]

/-- A text is read as a version if the version's number is read in it. -/
theorem ofText_ok_iff {text : String} {v : Version} :
    ofText text = .ok v ↔ heard text.toList = v.digits := by
  rcases ofText_cases text with ⟨v', hheard, hok⟩ | ⟨hheard, herror⟩
  · rw [hok, hheard]
    exact ⟨fun h => congrArg digits (Except.ok.inj h), fun h => by rw [digits_injective h]⟩
  · rw [herror]
    exact ⟨fun h => (nomatch h), fun h => absurd h (hheard v)⟩

/-- The number of a version is read in a text if the text spells the version. -/
theorem heard_eq_digits_iff {cs : List Char} {v : Version} :
    heard cs = v.digits ↔ Spelled cs v := by
  rw [heard, number_eq_iff, Text.lowerAscii_eq]
  constructor
  · rintro ⟨tag, htag, hword⟩
    obtain ⟨before, after, hbefore, hafter, heq⟩ := Text.exists_eq_trim cs
    simp only [Text.isBlank_iff] at hbefore hafter
    rw [heq]
    exact .intro hbefore hafter htag hword
  · rintro ⟨hbefore, hafter, htag, hword⟩
    simp only [← Text.isBlank_iff] at hbefore hafter
    have hall : tags.all (fun tag => (tag ++ v.digits).all fun c => !Text.isBlank c) = true := by
      cases v <;> decide
    have hblank := List.all_eq_true.mp (List.all_eq_true.mp hall _ htag)
    have hself := Text.trim_eq_self fun c hc => by
      rw [← Text.isBlank_toLower]
      exact (Bool.not_eq_true' _).mp (hblank _ (hword ▸ List.mem_map_of_mem hc))
    rw [Text.trim_append hbefore hafter, hself]
    exact ⟨_, htag, hword⟩

/-- Texts in which the same is read come to the same, but an error has its own text in it. -/
theorem ofText_congr {text other : String} (h : heard text.toList = heard other.toList) :
    ofText other = (ofText text).mapError fun _ => .invalidVersion other := by
  rcases ofText_cases text with ⟨v, hheard, hok⟩ | ⟨hheard, herror⟩
  · rw [hok, ofText_ok_iff.mpr (h ▸ hheard)]
    rfl
  · rcases ofText_cases other with ⟨v, hother, -⟩ | ⟨-, herror'⟩
    · exact absurd (h.trans hother) (hheard v)
    · rw [herror, herror']
      rfl

/-- What is accepted as a version, and what else is accepted with it. -/
structure Accepted (text : String) : Prop where
  ok_iff : ∀ v, ofText text = .ok v ↔ Spelled text.toList v
  /-- What spells no version is refused, and is in the error as it was. -/
  error_iff : ∀ e, ofText text = .error e ↔
    (∀ v, ¬ Spelled text.toList v) ∧ e = .invalidVersion text
  /-- The case of letters does not matter. -/
  recased : ∀ other : String, text.toList.map Char.toLower = other.toList.map Char.toLower →
    ofText other = (ofText text).mapError fun _ => .invalidVersion other
  /-- White space around a text does not matter. -/
  padded : ∀ before after : String, (∀ c ∈ before.toList, c.toNat ∈ Text.whiteSpace) →
    (∀ c ∈ after.toList, c.toNat ∈ Text.whiteSpace) → ofText (before ++ text ++ after) =
      (ofText text).mapError fun _ => .invalidVersion (before ++ text ++ after)

/-- **A text is accepted as a version if it spells the version, and only then**; the text of a
version spells it. -/
theorem accepts_spellings : (∀ text, Accepted text) ∧ ∀ v : Version, ofText v.text = .ok v := by
  refine ⟨fun text => ⟨?ok_iff, ?error_iff, ?recased, ?padded⟩, fun v => ?shown⟩
  case ok_iff => exact fun v => ofText_ok_iff.trans heard_eq_digits_iff
  case error_iff =>
    intro e
    simp only [← heard_eq_digits_iff]
    rcases ofText_cases text with ⟨v, hheard, hok⟩ | ⟨hheard, herror⟩
    · rw [hok]
      exact ⟨fun h => (nomatch h), fun h => absurd hheard (h.1 v)⟩
    · rw [herror, Except.error.injEq, eq_comm]
      exact (and_iff_right hheard).symm
  case recased =>
    intro other hcase
    refine ofText_congr ?_
    rw [heard_eq, heard_eq, hcase]
  case padded =>
    intro before after hbefore hafter
    simp only [← Text.isBlank_iff] at hbefore hafter
    refine ofText_congr ?_
    rw [String.toList_append, String.toList_append, heard, heard, Text.trim_append hbefore hafter]
  case shown =>
    rw [ofText_ok_iff, heard_eq_digits_iff]
    have hshown : v.text.toList = [] ++ v.text.toList ++ [] := by simp
    rw [hshown]
    refine .intro (fun _ hc => absurd hc List.not_mem_nil) (fun _ hc => absurd hc List.not_mem_nil)
      (by decide : "tlsv".toList ∈ tags) ?_
    cases v <;> decide

-- A tag occurs once, and is whole; there is no space behind it.
example : ["tlstls1.2", "tlsvtls1.2", "tlsv", "tls 1.2", "1.2.", "1.4", "ſ1.2"].all fun text =>
    ofText text = .error (.invalidVersion text) := by
  decide +kernel

end Version

end SecureStream
