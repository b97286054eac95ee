import Mathlib.Data.List.Nodup
import Mathlib.Data.Nat.Bitwise
import SecureStream.Asn1.ShortName
import SecureStream.Text.Decode

/-!
# Short names are told apart

No two types of the table have one short name, and no short name has a character in it that
separates or escapes in the text of a distinguished name. The table is long, so both are computed in
one pass, from the octets of the names: these are quicker to come by than the characters.

* `Text.octets`, `Text.number`: a text as octets, and as a number;
* `unmarked`, `nodup_of_unmarked`: distinct numbers, by their marks;
* `not_mem_shortName`, `find?_shortNames`: what comes of it for the table.
-/

namespace SecureStream

namespace Text

/-! ## Texts as octets -/

/-- The octets of a text. -/
def octets (text : String) : List UInt8 := text.toByteArray.data.toList

theorem octets_eq (text : String) : octets text = utf8 text.toList := by
  rw [octets, ← String.utf8Encode_toList, List.utf8Encode, List.data_toByteArray]
  rfl

/-- A text without an octet is one without the character that the octet stands for. -/
theorem not_mem_toList {c : Char} {b : UInt8} {text : String} (hc : String.utf8EncodeChar c = [b])
    (h : b ∉ octets text) : c ∉ text.toList := by
  rw [octets_eq, utf8, List.mem_flatMap] at h
  exact fun hmem => h ⟨c, hmem, hc ▸ List.mem_singleton_self b⟩

/-- The number with the octets of a text for its digits, the first one for the last digit. -/
def number (text : String) : Nat := (octets text).foldr (fun b n => b.toNat + 256 * n) 0

end Text

namespace Asn1

/-! ## Distinct numbers -/

/-- No number occurs twice, nor is it marked by a bit of `seen`. -/
def unmarked (seen : Nat) : List Nat → Bool
  | [] => true
  | n :: ns => !seen.testBit n && unmarked (seen ||| 1 <<< n) ns

theorem nodup_of_unmarked {seen : Nat} {ns : List Nat} (h : unmarked seen ns = true) :
    ns.Nodup ∧ ∀ n ∈ ns, seen.testBit n = false := by
  induction ns generalizing seen with
  | nil => exact ⟨List.nodup_nil, fun _ hn => absurd hn List.not_mem_nil⟩
  | cons n ns ih =>
    rw [unmarked, Bool.and_eq_true, Bool.not_eq_true'] at h
    obtain ⟨hnodup, hunseen⟩ := ih h.2
    have hrest : ∀ m ∈ ns, seen.testBit m = false ∧ m ≠ n := by
      intro m hm
      have hm := hunseen m hm
      rw [Nat.testBit_or, Bool.or_eq_false_iff, Nat.one_shiftLeft, Nat.testBit_two_pow] at hm
      exact ⟨hm.1, fun heq => by simp [heq] at hm⟩
    refine ⟨List.nodup_cons.mpr ⟨fun hmem => (hrest n hmem).2 rfl, hnodup⟩, ?_⟩
    exact List.forall_mem_cons.mpr ⟨h.1, fun m hm => (hrest m hm).1⟩

/-! ## The table -/

/-- The octets of an equals sign, a comma, a plus sign and a backslash. -/
def separators : List UInt8 := [0x3d, 0x2c, 0x2b, 0x5c]

-- The numbers are told apart by their remainders already, which are small enough to be marked.
theorem shortNames_sound :
    (shortNames.all fun entry => (Text.octets entry.2).all fun b => !separators.contains b) = true ∧
      unmarked 0 (shortNames.map fun entry => Text.number entry.2 % 66663) = true := by
  decide +kernel

theorem not_mem_separators {entry : List Nat × String} (h : entry ∈ shortNames) {b : UInt8}
    (hb : b ∈ separators) : b ∉ Text.octets entry.2 := by
  intro hmem
  have hall := List.all_eq_true.mp (List.all_eq_true.mp shortNames_sound.1 entry h) b hmem
  rw [Bool.not_eq_true', List.contains_eq_mem, decide_eq_false_iff_not] at hall
  exact hall hb

theorem mem_shortNames {oid : Oid} {name : String} (h : oid.shortName? = some name) :
    (oid.path, name) ∈ shortNames := by
  obtain ⟨before, after, heq, -⟩ := List.lookup_eq_some_iff.mp h
  rw [heq]
  exact List.mem_append_right _ List.mem_cons_self

/-- No short name has a separator in it, and neither has the stand-in. -/
theorem not_mem_shortName (oid : Oid) : '=' ∉ oid.shortName.toList ∧ ',' ∉ oid.shortName.toList ∧
    '+' ∉ oid.shortName.toList ∧ '\\' ∉ oid.shortName.toList := by
  rw [Oid.shortName]
  cases hname : oid.shortName? with
  | none => decide
  | some name =>
    have hoctet : ∀ b ∈ separators, b ∉ Text.octets name :=
      fun b hb => not_mem_separators (mem_shortNames hname) hb
    have h {c : Char} {b : UInt8} (hc : String.utf8EncodeChar c = [b]) (hb : b ∈ separators) :
        c ∉ name.toList := Text.not_mem_toList hc (hoctet b hb)
    exact ⟨h (b := 0x3d) (by decide) (by decide), h (b := 0x2c) (by decide) (by decide),
      h (b := 0x2b) (by decide) (by decide), h (b := 0x5c) (by decide) (by decide)⟩

theorem nodup_shortNames : (shortNames.map Prod.snd).Nodup := by
  refine List.Nodup.of_map (fun name => Text.number name % 66663) ?_
  rw [List.map_map]
  exact (nodup_of_unmarked shortNames_sound.2).1

/-- An entry of the table is found again by its short name. -/
theorem find?_shortNames {entry : List Nat × String} (h : entry ∈ shortNames) :
    shortNames.find? (fun other => other.2 = entry.2) = some entry := by
  cases hfound : shortNames.find? fun other => other.2 = entry.2 with
  | none => exact absurd (decide_eq_true rfl) (List.find?_eq_none.mp hfound entry h)
  | some found =>
    have hname : found.2 = entry.2 := by simpa using List.find?_some hfound
    have hmem := List.mem_of_find?_eq_some hfound
    rw [List.inj_on_of_nodup_map nodup_shortNames hmem h hname]

end Asn1

end SecureStream
