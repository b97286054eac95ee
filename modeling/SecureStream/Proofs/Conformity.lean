import Mathlib.Data.List.Forall2
import Mathlib.Data.List.TakeWhile
import SecureStream.Net.Literal
import SecureStream.Proofs.Legibility

/-!
# Names read by the standard

RFC 4514 says which distinguished name a text stands for: commas separate its sets of attributes,
plus signs the attributes of one set, and a value may have any character in it.

* `Rfc4514.octets?`, `Rfc4514.value?`, `Rfc4514.attribute?`, `Rfc4514.name?`: a text of a name, read
  by the standard;
* `Attribute.told`: what is left of an attribute in the text of its name;
* `Rfc4514.attribute?_marks`, `Rfc4514.name?_chars`: what the text of a name is read as;
* `Name.Textual`, `Name.Conforms`: names that the standard has a text for, and those that are read
  off theirs;
* `Name.Conformity`: which names are read off their texts, and which have one text in common;
* **`Name.conformity`**: that is so for all names with textual values and named types.
-/

namespace SecureStream

open Asn1 Name

/-! ## The standard -/

namespace Rfc4514

/-- The characters that have a meaning where they stand as they are. -/
def reserved : List Char := ['\x00', '"', '+', ',', ';', '<', '>', '\\']

/-- The characters that a backslash takes the meaning away from. -/
def escapable : List Char := [' ', '#', '=', '"', '+', ',', ';', '<', '>', '\\']

/-- The octet that two hexadecimal digits spell. -/
def octet? (c d : Char) : Option UInt8 := do
  return UInt8.ofNat ((← Literal.hexDigit? c) * 16 + (← Literal.hexDigit? d))

/-- The octets of a value that is written as a text. A backslash may also stand before an octet. -/
def octets? : List Mark → Option (List UInt8)
  | [] => some []
  | .bare c :: ms =>
    if c ∈ reserved then none else (octets? ms).map (String.utf8EncodeChar c ++ ·)
  | .escaped c :: ms =>
    if c ∈ escapable then (octets? ms).map (String.utf8EncodeChar c ++ ·)
    else
      match ms with
      | .bare d :: ms => do return (← octet? c d) :: (← octets? ms)
      | _ => none

/-- The octets of a value that is written as its encoding. -/
def encoding? : List Mark → Option (List UInt8)
  | [] => some []
  | .bare c :: .bare d :: ms => do return (← octet? c d) :: (← encoding? ms)
  | _ => none

/-- A value: an encoding behind a hash, or else a text, which has no space at its ends. -/
def value? (ms : List Mark) : Option (Option (List Char)) :=
  match ms with
  | .bare '#' :: ms => do
    match Attribute.value (← encoding? ms) with
    | .found text [] => some text
    | _ => none
  | ms =>
    if ms.head? = some (.bare ' ') ∨ ms.getLast? = some (.bare ' ') then none
    else do return some (← Text.utf8? (← octets? ms))

/-- A number of a path, without leading zeros. -/
def number? (cs : List Char) : Option Nat :=
  match Literal.digits 10 cs with
  | (0 :: _ :: _, _) => none
  | (d :: ds, []) => some (Literal.value 10 (d :: ds))
  | _ => none

/-- A type: a short name, or a path of two or more numbers with dots between them. -/
def type? (cs : List Char) : Option Oid :=
  match shortNames.find? fun entry => entry.2 = String.ofList cs with
  | some entry => some ⟨entry.1⟩
  | none => (((cs.splitOn '.').mapM number?).filter (2 ≤ ·.length)).map Oid.mk

/-- The characters of marks, all of which stand as they are. -/
def plain? (ms : List Mark) : Option (List Char) :=
  ms.mapM fun
    | .bare c => some c
    | .escaped _ => none

/-- An attribute: a type and a value, on both sides of the first equals sign. -/
def attribute? (ms : List Mark) : Option Attribute :=
  match ms.dropWhile (· ≠ .bare '=') with
  | [] => none
  | _ :: value => do
    let oid ← type? (← plain? (ms.takeWhile (· ≠ .bare '=')))
    return ⟨oid, ← value? value⟩

/-- A name: its sets of attributes, the most specific first. -/
def name? (text : List Char) : Option (List (List Attribute)) :=
  if text = [] then some []
  else ((marks text).splitOn (.bare ',')).mapM fun set =>
    (set.splitOn (.bare '+')).mapM attribute?

-- Attributes in one set, an octet by its digits, a type by its path and a value by its encoding.
example : name? "O=b+CN=a\\00b,2.5.4.6=#1302444b".toList =
    some [[⟨⟨[2, 5, 4, 10]⟩, some "b".toList⟩, ⟨⟨[2, 5, 4, 3]⟩, some "a\x00b".toList⟩],
      [⟨⟨[2, 5, 4, 6]⟩, some "DK".toList⟩]] := by
  decide +kernel

end Rfc4514

namespace Attribute

/-- What is left of an attribute in the text of its name: the part of its value in front of the
first NUL. -/
def told (a : Attribute) : Attribute :=
  { a with text := a.text.map fun text => text.takeWhile (· ≠ '\x00') }

end Attribute

namespace Name

/-- A name with textual values, of types that have a short name. -/
structure Textual (name : Name) : Prop where
  occupied : ∀ set ∈ name.sets, set ≠ []
  named : ∀ a ∈ name.entries, a.oid.shortName?.isSome = true
  valued : ∀ a ∈ name.entries, a.text.isSome = true

/-- The text of a name is read as its sets of attributes, the last one first. No order is kept
within a set. -/
def Conforms (name : Name) : Prop :=
  ∃ sets, Rfc4514.name? name.text.toList = some sets ∧
    List.Forall₂ List.Perm sets name.sets.reverse

/-- What the text of a name is worth by the standard. -/
structure Conformity (name : Name) : Prop where
  /-- The text is read as one set for each attribute, of whose value the part behind a NUL is
  missing. -/
  read_eq : name.sets ≠ [] → Rfc4514.name? name.text.toList =
    some ((name.entries.map Attribute.told).reverse.map fun a => [a])
  /-- The text is read as the name unless the name is empty, attributes share a set or there is a
  NUL in a value. -/
  conforms_iff : name.Conforms ↔ name.sets ≠ [] ∧
    ∀ set ∈ name.sets, ∃ a, set = [a] ∧ ∀ text, a.text = some text → '\x00' ∉ text
  /-- Names have one text if the same is told of their attributes, in whatever sets they are. -/
  text_eq_iff (other : Name) : other.Textual →
    (name.text = other.text ↔ name.entries.map Attribute.told = other.entries.map Attribute.told)
  /-- Two names that are read off their texts have different texts. -/
  eq_of_text_eq (other : Name) : other.Textual → name.Conforms → other.Conforms →
    name.text = other.text → name = other

end Name

/-! ## Attributes -/

namespace Attribute

/-- An attribute is told as it is if there is no NUL in its value. -/
theorem told_eq_iff (a : Attribute) : a.told = a ↔ ∀ text, a.text = some text → '\x00' ∉ text := by
  obtain ⟨oid, text⟩ := a
  cases text with
  | none => exact ⟨fun _ _ h => (nomatch h), fun _ => rfl⟩
  | some text =>
    have htold : told ⟨oid, some text⟩ = ⟨oid, some text⟩ ↔
        text.takeWhile (· ≠ '\x00') = text := by
      rw [told, Attribute.mk.injEq, and_iff_right rfl]
      exact Option.some_inj
    rw [htold, List.takeWhile_eq_self_iff]
    constructor
    · rintro hall _ ⟨⟩ hmem
      exact absurd (hall _ hmem) (by decide)
    · exact fun hnul c hc => decide_eq_true fun heq => hnul text rfl (heq ▸ hc)

theorem told_told (a : Attribute) : a.told.told = a.told := by
  rw [told_eq_iff]
  intro text htext hmem
  obtain ⟨whole, -, rfl⟩ := Option.map_eq_some_iff.mp htext
  exact absurd (List.mem_takeWhile_imp hmem) (by decide)

end Attribute

namespace Rfc4514

variable {a : Attribute}

theorem mapM_map {α β γ : Type} {f : β → Option γ} {g : α → β} {k : α → γ} {as : List α}
    (h : ∀ a ∈ as, f (g a) = some (k a)) : (as.map g).mapM f = some (as.map k) := by
  induction as with
  | nil => rfl
  | cons a as ih =>
    obtain ⟨ha, has⟩ := List.forall_mem_cons.mp h
    rw [List.map_cons, List.mapM_cons, ha, ih has]
    rfl

theorem plain?_bare (cs : List Char) : plain? (cs.map .bare) = some cs := by
  have hchars : plain? (cs.map .bare) = some (cs.map id) := mapM_map fun _ _ => rfl
  rwa [List.map_id] at hchars

/-- No two types have one short name. -/
theorem type?_key (h : a.oid.shortName?.isSome = true) :
    type? (a.key Oid.known) = some a.oid := by
  obtain ⟨name, hname⟩ := Option.isSome_iff_exists.mp h
  have hkey : String.ofList (a.key Oid.known) = name := by
    rw [Attribute.key, Oid.known, Oid.shortName, hname]
    exact String.ofList_toList
  rw [type?, hkey, find?_shortNames (mem_shortNames hname)]

/-- A value whose reserved characters are escaped is read as a text. -/
theorem octets?_eq {ms : List Mark} (hbare : ∀ c, .bare c ∈ ms → c ∉ reserved)
    (hescaped : ∀ c, .escaped c ∈ ms → c ∈ escapable) :
    octets? ms = some (Text.utf8 (ms.map Mark.char)) := by
  induction ms with
  | nil => rfl
  | cons m ms ih =>
    have hrest := ih (fun c hc => hbare c (List.mem_cons_of_mem _ hc))
      fun c hc => hescaped c (List.mem_cons_of_mem _ hc)
    cases m with
    | bare c =>
      unfold octets?
      rw [if_neg (hbare c List.mem_cons_self), hrest]
      rfl
    | escaped c =>
      unfold octets?
      rw [if_pos (hescaped c List.mem_cons_self), hrest]
      rfl

theorem value?_of_guards {text value : List Char} {ms : List Mark} (h : Guards text ms value)
    (hspace : ms.head? ≠ some (.bare ' ')) (hhash : ms.head? ≠ some (.bare '#'))
    (hnul : '\x00' ∉ value) : value? ms = some (some value) := by
  have hbare : ∀ c, .bare c ∈ ms → c ∉ reserved := by
    intro c hc hreserved
    rcases List.mem_cons.mp hreserved with rfl | hreserved
    · exact hnul (h.chars_eq ▸ List.mem_map_of_mem hc)
    · have hsub : reserved.tail ⊆ special := by decide
      exact h.bare c hc (hsub hreserved)
  have hescaped : ∀ c, .escaped c ∈ ms → c ∈ escapable := by
    have hsub : ' ' :: '#' :: special ⊆ escapable := by decide
    exact fun c hc => hsub (h.escaped c hc)
  unfold value?
  split
  case h_1 => exact absurd rfl hhash
  case h_2 =>
    rw [if_neg (not_or.mpr ⟨hspace, h.last⟩), octets?_eq hbare hescaped, h.chars_eq]
    change (Text.utf8? (Text.utf8 value)).bind _ = _
    rw [Text.utf8?_utf8]
    rfl

theorem attribute?_eq (h : a.oid.shortName?.isSome = true) {ms : List Mark}
    {shown : Option (List Char)} (hvalue : value? ms = some shown) :
    attribute? ((a.key Oid.known).map .bare ++ .bare '=' :: ms) = some ⟨a.oid, shown⟩ := by
  have hequals := (a.not_mem_key plain_known).1
  obtain ⟨hkey, hrest⟩ :=
    Attribute.split_key hequals (p := fun m => decide (m ≠ .bare '=')) (fun c => by simp) ms
  rw [attribute?, hrest, hkey]
  simp only [Option.bind_eq_bind, plain?_bare, Option.bind_some, type?_key h, hvalue]
  rfl

/-- A shown value is read as a text, and no plus sign stands in it as it is. -/
theorem exists_value?_eq (h : a.text.isSome = true) :
    ∃ ms, Spells (Attribute.valueChars a.shown) ms ∧ value? ms = some a.shown ∧ .bare '+' ∉ ms := by
  obtain ⟨text, htext⟩ := Option.isSome_iff_exists.mp h
  have hshown : a.shown = some (text.takeWhile (· ≠ '\x00')) := by rw [Attribute.shown, htext]; rfl
  have hnul : '\x00' ∉ text.takeWhile (· ≠ '\x00') := fun hmem =>
    absurd (List.mem_takeWhile_imp hmem) (by decide)
  obtain ⟨ms, hms, hspace, hhash⟩ := guards_escape (text.takeWhile (· ≠ '\x00'))
  have hplus : .bare '+' ∉ ms := fun hmem => hms.bare _ hmem (by decide)
  rw [hshown]
  exact ⟨ms, hms.spells, value?_of_guards hms hspace hhash hnul, hplus⟩

/-- The text of an attribute is read as what it tells, in a set of its own. -/
theorem attribute?_marks (hname : a.oid.shortName?.isSome = true) (htext : a.text.isSome = true) :
    attribute? (marks (a.chars Oid.known)) = some a.told ∧
      .bare '+' ∉ marks (a.chars Oid.known) := by
  obtain ⟨ms, hspells, hvalue, hplus⟩ := exists_value?_eq htext
  obtain ⟨-, -, hbackslash⟩ := a.not_mem_key plain_known
  have hkey : '+' ∉ a.key Oid.known := (not_mem_shortName a.oid).2.2.1
  rw [(Attribute.spells_chars hbackslash hspells).marks_eq]
  exact ⟨attribute?_eq hname hvalue, Attribute.not_mem_marks (by decide) hkey hplus⟩

/-- The text of a name is read as one set for each attribute. -/
theorem name?_chars {name : Name} (h : name.Textual) (hne : name.entries ≠ []) :
    name? (name.chars Oid.known) =
      some ((name.entries.map Attribute.told).reverse.map fun a => [a]) := by
  have htext : name.chars Oid.known ≠ [] := List.ne_nil_of_mem (equals_mem_chars hne)
  rw [name?, if_neg htext, splitOn_marks plain_known hne, ← List.map_reverse, List.map_map]
  refine mapM_map fun a ha => ?_
  have hmem : a ∈ name.entries := List.mem_reverse.mp ha
  obtain ⟨hread, hplus⟩ := attribute?_marks (h.named a hmem) (h.valued a hmem)
  have hsplit : (marks (a.chars Oid.known)).splitOn (.bare '+') = [marks (a.chars Oid.known)] := by
    have hpieces := List.splitOn_intercalate (Mark.bare '+') (List.forall_mem_singleton.mpr hplus)
      (List.cons_ne_nil _ _)
    rwa [List.intercalate_singleton] at hpieces
  rw [hsplit, List.mapM_cons, hread]
  rfl

/-- What stands for a name without attributes is no name by the standard. -/
theorem name?_undefined : name? undefined = none := by decide +kernel

end Rfc4514

/-! ## Names -/

namespace Name

variable {name : Name}

theorem forall₂_perm_iff {α : Type} {as : List α} {sets : List (List α)} :
    List.Forall₂ List.Perm (as.map fun a => [a]) sets ↔ as.map (fun a => [a]) = sets := by
  rw [← List.forall₂_eq_eq_eq (α := List α), List.forall₂_map_left_iff, List.forall₂_map_left_iff]
  simp only [List.singleton_perm]

theorem Textual.entries_eq_nil_iff (h : name.Textual) : name.entries = [] ↔ name.sets = [] := by
  constructor
  · intro hnil
    refine List.eq_nil_iff_forall_not_mem.mpr fun set hset => h.occupied set hset ?_
    exact List.flatten_eq_nil_iff.mp hnil set hset
  · intro hnil
    rw [entries, hnil]
    rfl

theorem Textual.name?_text (h : name.Textual) (hne : name.sets ≠ []) :
    Rfc4514.name? name.text.toList =
      some ((name.entries.map Attribute.told).reverse.map fun a => [a]) := by
  rw [text, textBy, String.toList_ofList, Rfc4514.name?_chars h (mt h.entries_eq_nil_iff.mp hne)]

theorem Textual.conforms_iff (h : name.Textual) : name.Conforms ↔
    name.sets ≠ [] ∧ (name.entries.map Attribute.told).map (fun a => [a]) = name.sets := by
  by_cases hnil : name.sets = []
  · have hread : Rfc4514.name? name.text.toList = none := by
      rw [text, textBy, String.toList_ofList, chars_of_nil (h.entries_eq_nil_iff.mpr hnil),
        Rfc4514.name?_undefined]
    constructor
    · rintro ⟨sets, hsome, -⟩
      rw [hread] at hsome
      exact absurd hsome.symm (Option.some_ne_none _)
    · exact fun hne => absurd hnil hne.1
  · have hconforms : name.Conforms ↔
        (name.entries.map Attribute.told).reverse.map (fun a => [a]) = name.sets.reverse := by
      rw [← forall₂_perm_iff, Conforms, h.name?_text hnil]
      constructor
      · rintro ⟨sets, heq, hsets⟩
        rwa [Option.some.inj heq]
      · exact fun hsets => ⟨_, rfl, hsets⟩
    rw [hconforms, and_iff_right hnil, List.map_reverse, List.reverse_inj]

theorem map_told_eq_iff {sets : List (List Attribute)} :
    (sets.flatten.map Attribute.told).map (fun a => [a]) = sets ↔
      ∀ set ∈ sets, ∃ a, set = [a] ∧ a.told = a := by
  constructor
  · intro h set hset
    rw [← h] at hset
    obtain ⟨_, htold, rfl⟩ := List.mem_map.mp hset
    obtain ⟨a, -, rfl⟩ := List.mem_map.mp htold
    exact ⟨a.told, rfl, a.told_told⟩
  · intro h
    induction sets with
    | nil => rfl
    | cons set sets ih =>
      obtain ⟨⟨a, rfl, htold⟩, hsets⟩ := List.forall_mem_cons.mp h
      rw [List.flatten_cons, List.singleton_append, List.map_cons, List.map_cons, ih hsets, htold]

theorem Textual.text_eq_iff (h : name.Textual) {other : Name} (hother : other.Textual) :
    name.text = other.text ↔
      name.entries.map Attribute.told = other.entries.map Attribute.told := by
  rw [text, text, textBy, textBy, String.ofList_inj]
  constructor
  · intro htext
    by_cases hnil : name.entries = []
    · have hundefined : other.chars Oid.known = undefined := htext ▸ chars_of_nil hnil
      rw [hnil, (other.chars_eq_undefined_iff _).mp hundefined]
    · have hne : other.entries ≠ [] := fun hother => hnil <| by
        rw [← chars_eq_undefined_iff Oid.known, htext, chars_of_nil hother]
      have hread := Rfc4514.name?_chars h hnil
      rw [htext, Rfc4514.name?_chars hother hne, Option.some_inj] at hread
      have hsingle : Function.Injective fun a : Attribute => [a] := List.singleton_injective
      exact List.reverse_inj.mp (List.map_injective_iff.mpr hsingle hread.symm)
  · intro htold
    have hentries (as : List Attribute) : as.map (Attribute.entry Oid.known) =
        (as.map Attribute.told).map fun a => (a.key Oid.known, a.text) := by
      rw [List.map_map]
      rfl
    exact chars_eq_of_entries (by rw [hentries, hentries, htold])

/-- **By the standard, the text of a name is read as that name exactly if the name is not empty, no
attributes share a set and there is no NUL in a value.** -/
theorem conformity (name : Name) (h : name.Textual) : name.Conformity where
  read_eq := h.name?_text
  conforms_iff := by
    rw [h.conforms_iff, entries, map_told_eq_iff]
    simp only [Attribute.told_eq_iff]
  text_eq_iff other hother := h.text_eq_iff hother
  eq_of_text_eq other hother hname hconforms htext := by
    have htold := (h.text_eq_iff hother).mp htext
    have hsets : name.sets = other.sets := by
      rw [← (h.conforms_iff.mp hname).2, ← (hother.conforms_iff.mp hconforms).2, htold]
    exact congrArg Name.mk hsets

/-- A name with two attributes, in a set each. -/
def parted : Name :=
  ⟨[[⟨⟨[2, 5, 4, 3]⟩, some "a".toList⟩], [⟨⟨[2, 5, 4, 10]⟩, some "b".toList⟩]]⟩

theorem conformity_parted : parted.Textual ∧ parted.Conforms := by
  have htextual : parted.Textual := ⟨by decide, by decide, by decide⟩
  have hsingle : ∀ set ∈ parted.sets,
      ∃ a, set = [a] ∧ ∀ text, a.text = some text → '\x00' ∉ text := by
    simp [parted]
  exact ⟨htextual, (conformity parted htextual).conforms_iff.mpr ⟨by decide, hsingle⟩⟩

/-- A name with the same attributes in one set. -/
def joined : Name :=
  ⟨[[⟨⟨[2, 5, 4, 3]⟩, some "a".toList⟩, ⟨⟨[2, 5, 4, 10]⟩, some "b".toList⟩]]⟩

/-- A name with a NUL in its value. -/
def broken : Name := ⟨[[⟨⟨[2, 5, 4, 3]⟩, some "a\x00b".toList⟩]]⟩

/-- Attributes of one set are read in a set each, and a value is read without the part behind a
NUL. -/
theorem not_conforms_joined :
    (decode? [0x30, 0x16, 0x31, 0x14, 0x30, 0x08, 0x06, 0x03, 0x55, 0x04, 0x03, 0x0c, 0x01, 0x61,
        0x30, 0x08, 0x06, 0x03, 0x55, 0x04, 0x0a, 0x0c, 0x01, 0x62] = some joined ∧
      joined.Textual ∧ ¬ joined.Conforms ∧ joined.text = parted.text) ∧
    (decode? [0x30, 0x0e, 0x31, 0x0c, 0x30, 0x0a, 0x06, 0x03, 0x55, 0x04, 0x03, 0x0c, 0x03, 0x61,
        0x00, 0x62] = some broken ∧
      broken.Textual ∧ ¬ broken.Conforms) := by
  have hjoined : joined.Textual := ⟨by decide, by decide, by decide⟩
  have hbroken : broken.Textual := ⟨by decide, by decide, by decide⟩
  refine ⟨⟨by decide +kernel, hjoined, fun h => ?_, by decide⟩,
    by decide +kernel, hbroken, fun h => ?_⟩
  · exact absurd (hjoined.conforms_iff.mp h).2 (by decide)
  · exact absurd (hbroken.conforms_iff.mp h).2 (by decide)

end Name

end SecureStream
