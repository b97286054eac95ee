import SecureStream.Name.Render
import SecureStream.Proofs.ShortNames

/-!
# Names that can be read again

The text of a name is a list of attributes with commas between them, in which a backslash takes the
meaning of the character behind it away.

* `Mark`, `marks`: the characters of a text, with or without a backslash;
* `Spells`, `Spells.append`, `Spells.intercalate`: texts that have the same marks whatever follows;
* `Guards`, `guards_escape`: what an escaped value has for marks;
* `readValue`, `readAttribute`, `readEntries`: a text of a name, read again;
* `Asn1.Plain`, `Attribute.entry`: short names without separators, and what an attribute says;
* `Name.Legible`: what the text of a name says about the name;
* **`Name.legible`**: the text of any name says just what its keys and values are.
-/

namespace SecureStream

open Asn1 Name

/-! ## Marks -/

/-- A character of a text: as it is, or with a backslash before it. -/
inductive Mark
  | bare (c : Char)
  | escaped (c : Char)
  deriving DecidableEq

/-- The character of a mark. -/
def Mark.char : Mark → Char
  | bare c | escaped c => c

/-- The marks of a text. -/
def marks : List Char → List Mark
  | [] => []
  | [c] => [.bare c]
  | c :: d :: cs => if c = '\\' then .escaped d :: marks cs else .bare c :: marks (d :: cs)

/-- A text has some marks, and has them whatever follows it. -/
def Spells (text : List Char) (ms : List Mark) : Prop :=
  ∀ rest, marks (text ++ rest) = ms ++ marks rest

namespace Spells

variable {c : Char} {text cs ds : List Char} {ms ns : List Mark}

theorem marks_eq (h : Spells text ms) : marks text = ms := by
  have hnil := h []
  rwa [List.append_nil, marks, List.append_nil] at hnil

theorem nil : Spells [] [] := fun _ => rfl

theorem append (hcs : Spells cs ms) (hds : Spells ds ns) : Spells (cs ++ ds) (ms ++ ns) := by
  intro rest
  rw [List.append_assoc, hcs, hds, List.append_assoc]

theorem bare (hc : c ≠ '\\') (h : Spells cs ms) : Spells (c :: cs) (.bare c :: ms) := by
  have hhead : ∀ rest, marks (c :: rest) = .bare c :: marks rest
    | [] => rfl
    | d :: rest => if_neg hc
  intro rest
  rw [List.cons_append, hhead, h]
  rfl

theorem escaped (h : Spells cs ms) : Spells ('\\' :: c :: cs) (.escaped c :: ms) := fun rest =>
  congrArg (Mark.escaped c :: ·) (h rest)

/-- Without backslashes, every character stands as it is. -/
theorem plain (h : '\\' ∉ cs) : Spells cs (cs.map .bare) := by
  induction cs with
  | nil => exact .nil
  | cons c cs ih =>
    rw [List.mem_cons, not_or] at h
    exact .bare (Ne.symm h.1) (ih h.2)

/-- Texts with commas between them have their marks with commas between them. -/
theorem intercalate {α : Type} {f : α → List Char} {g : α → List Mark} {as : List α}
    (h : ∀ a ∈ as, Spells (f a) (g a)) :
    Spells ([','].intercalate (as.map f)) ([.bare ','].intercalate (as.map g)) := by
  induction as with
  | nil => exact .nil
  | cons a as ih =>
    obtain ⟨ha, has⟩ := List.forall_mem_cons.mp h
    cases as with
    | nil => simpa using ha
    | cons b as =>
      have hcomma : Spells [','] [.bare ','] := .bare (by decide) .nil
      rw [List.map_cons, List.map_cons, List.map_cons, List.map_cons, List.intercalate_cons_cons,
        List.intercalate_cons_cons]
      exact (ha.append hcomma).append (ih has)

end Spells

/-! ## Escaped values -/

/-- A text spells a value, and wherever a character of it could mean something else, a backslash
prevents that. -/
structure Guards (text : List Char) (ms : List Mark) (value : List Char) : Prop where
  spells : Spells text ms
  chars_eq : ms.map Mark.char = value
  bare : ∀ c, .bare c ∈ ms → c ∉ special
  escaped : ∀ c, .escaped c ∈ ms → c ∈ ' ' :: '#' :: special
  last : ms.getLast? ≠ some (.bare ' ')

namespace Guards

variable {c : Char} {text value : List Char} {ms : List Mark}

theorem nil : Guards [] [] [] where
  spells := .nil
  chars_eq := rfl
  bare _ h := absurd h List.not_mem_nil
  escaped _ h := absurd h List.not_mem_nil
  last := nofun

theorem cons_bare (hc : c ∉ special) (hlast : ms = [] → c ≠ ' ') (h : Guards text ms value) :
    Guards (c :: text) (.bare c :: ms) (c :: value) where
  spells := h.spells.bare fun heq => hc (heq ▸ by decide)
  chars_eq := congrArg (c :: ·) h.chars_eq
  bare d hd := by
    rcases List.mem_cons.mp hd with heq | hd
    · exact Mark.bare.inj heq ▸ hc
    · exact h.bare d hd
  escaped d hd := by
    rcases List.mem_cons.mp hd with heq | hd
    · exact nomatch heq
    · exact h.escaped d hd
  last := by
    cases ms with
    | nil => simpa using hlast rfl
    | cons m ms => exact h.last

theorem cons_escaped (hc : c ∈ ' ' :: '#' :: special) (h : Guards text ms value) :
    Guards ('\\' :: c :: text) (.escaped c :: ms) (c :: value) where
  spells := h.spells.escaped
  chars_eq := congrArg (c :: ·) h.chars_eq
  bare d hd := by
    rcases List.mem_cons.mp hd with heq | hd
    · exact nomatch heq
    · exact h.bare d hd
  escaped d hd := by
    rcases List.mem_cons.mp hd with heq | hd
    · exact Mark.escaped.inj heq ▸ hc
    · exact h.escaped d hd
  last := by
    cases ms with
    | nil => exact nofun
    | cons m ms => exact h.last

end Guards

theorem guards_escapeRest (value : List Char) : ∃ ms, Guards (escapeRest value) ms value := by
  have hspecial {c : Char} (hc : c ∈ special) : c ∈ ' ' :: '#' :: special :=
    List.mem_cons_of_mem _ (List.mem_cons_of_mem _ hc)
  fun_induction escapeRest value with
  | case1 => exact ⟨[], .nil⟩
  | case2 c hc =>
    have hmem : c ∈ ' ' :: '#' :: special := hc.elim hspecial fun h => h ▸ List.mem_cons_self
    exact ⟨_, .cons_escaped hmem .nil⟩
  | case3 c hc =>
    rw [not_or] at hc
    exact ⟨_, .cons_bare hc.1 (fun _ => hc.2) .nil⟩
  | case4 c cs hne hc ih =>
    obtain ⟨ms, hms⟩ := ih
    exact ⟨_, hms.cons_escaped (hspecial hc)⟩
  | case5 c cs hne hc ih =>
    obtain ⟨ms, hms⟩ := ih
    -- The last character is not this one, so that a space may stand here as it is.
    exact ⟨_, hms.cons_bare hc fun hnil => absurd (hnil ▸ hms.chars_eq).symm hne⟩

/-- The marks of an escaped value guard it, and it does not begin with a space or a hash that
stands as it is. -/
theorem guards_escape (value : List Char) : ∃ ms, Guards (escape value) ms value ∧
    ms.head? ≠ some (.bare ' ') ∧ ms.head? ≠ some (.bare '#') := by
  cases value with
  | nil => exact ⟨[], .nil, by simp, by simp⟩
  | cons c cs =>
    rw [escape]
    split
    case isTrue hc =>
      obtain ⟨ms, hms⟩ := guards_escapeRest cs
      have hmem : c ∈ ' ' :: '#' :: special := by
        rcases hc with rfl | rfl <;> decide
      exact ⟨_, hms.cons_escaped hmem, by simp, by simp⟩
    case isFalse hc =>
      obtain ⟨ms, hms⟩ := guards_escapeRest (c :: cs)
      have hhead : ms.head?.map Mark.char = some c := by
        rw [← List.head?_map, hms.chars_eq]
        rfl
      rw [not_or] at hc
      refine ⟨ms, hms, fun h => hc.1 ?_, fun h => hc.2 ?_⟩
      · rw [h] at hhead
        exact (Option.some.inj hhead).symm
      · rw [h] at hhead
        exact (Option.some.inj hhead).symm

/-! ## Reading -/

/-- The value that marks spell: a missing one is spelled without a backslash. -/
def readValue (ms : List Mark) : Option (List Char) :=
  if ms = undefined.map .bare then none else some (ms.map Mark.char)

/-- A key and a value, on both sides of the first equals sign. -/
def readAttribute (ms : List Mark) : List Char × Option (List Char) :=
  ((ms.takeWhile (·.char ≠ '=')).map Mark.char, readValue (ms.dropWhile (·.char ≠ '=')).tail)

/-- The keys and values of a name, in encoded order. -/
def readEntries (text : List Char) : List (List Char × Option (List Char)) :=
  if text = undefined then []
  else (((marks text).splitOn (.bare ',')).map readAttribute).reverse

theorem readValue_of_guards {text value : List Char} {ms : List Mark} (h : Guards text ms value) :
    readValue ms = some value := by
  have hne : ms ≠ undefined.map .bare := fun heq =>
    h.bare '<' (heq ▸ List.mem_map_of_mem (by decide)) (by decide)
  rw [readValue, if_neg hne, h.chars_eq]

/-! ## Attributes -/

/-- No short name has a character in it that means something in the text of a name. -/
def Asn1.Plain (names : Oid → Option String) : Prop :=
  ∀ oid name, names oid = some name →
    '=' ∉ name.toList ∧ ',' ∉ name.toList ∧ '\\' ∉ name.toList

/-- The names that the library knows types by are such short names. -/
theorem Asn1.plain_known : Plain Oid.known := by
  rintro oid _ ⟨⟩
  obtain ⟨hequals, hcomma, -, hbackslash⟩ := not_mem_shortName oid
  exact ⟨hequals, hcomma, hbackslash⟩

variable {names : Oid → Option String}

namespace Attribute

variable {a : Attribute}

/-- What an attribute says: the short name of its type, a question mark if there is none, and the
part of its text in front of the first NUL, if there is a text. -/
def entry (names : Oid → Option String) (a : Attribute) : List Char × Option (List Char) :=
  (((names a.oid).getD "?").toList, a.text.map fun text => text.takeWhile (· ≠ '\x00'))

theorem entry_eq (names : Oid → Option String) (a : Attribute) :
    a.entry names = (a.key names, a.shown) := rfl

theorem shown_eq_none_iff (a : Attribute) : a.shown = none ↔ a.text = none := Option.map_eq_none_iff

/-- No key has a character in it that means something in the text of a name. -/
theorem not_mem_key (h : Plain names) (a : Attribute) :
    '=' ∉ a.key names ∧ ',' ∉ a.key names ∧ '\\' ∉ a.key names := by
  rw [key]
  cases hname : names a.oid with
  | none => decide
  | some name => exact h a.oid name hname

theorem spells_chars (hkey : '\\' ∉ a.key names) {ms : List Mark}
    (h : Spells (valueChars a.shown) ms) :
    Spells (a.chars names) ((a.key names).map .bare ++ .bare '=' :: ms) :=
  (Spells.plain hkey).append (.bare (by decide) h)

theorem equals_mem_chars (names : Oid → Option String) (a : Attribute) : '=' ∈ a.chars names :=
  List.mem_append_right _ List.mem_cons_self

/-- The marks of a shown value give it back, and there is no comma among them that stands as it
is. -/
theorem exists_spells_valueChars (shown : Option (List Char)) :
    ∃ ms, Spells (valueChars shown) ms ∧ readValue ms = shown ∧ .bare ',' ∉ ms := by
  cases shown with
  | none =>
    have hcomma : Mark.bare ',' ∉ undefined.map Mark.bare := by decide
    exact ⟨_, .plain (by decide), if_pos rfl, hcomma⟩
  | some value =>
    obtain ⟨ms, hms, -⟩ := guards_escape value
    exact ⟨ms, hms.spells, readValue_of_guards hms, fun h => hms.bare _ h (by decide)⟩

/-- A value that is there is not written like one that is missing. -/
theorem valueChars_eq_undefined_iff (shown : Option (List Char)) :
    valueChars shown = undefined ↔ shown = none := by
  refine ⟨fun h => ?_, fun h => by rw [h]; rfl⟩
  obtain ⟨ms, hspells, hread, -⟩ := exists_spells_valueChars shown
  have hms : undefined.map Mark.bare = ms := by
    rw [← hspells.marks_eq, h]
    decide
  rw [← hread, ← hms]
  exact if_pos rfl

/-- The first equals sign is the one behind the key. -/
theorem split_key (hkey : '=' ∉ a.key names) {p : Mark → Bool}
    (hp : ∀ c, p (.bare c) = decide (c ≠ '=')) (ms : List Mark) :
    ((a.key names).map Mark.bare ++ .bare '=' :: ms).takeWhile p = (a.key names).map .bare ∧
      ((a.key names).map Mark.bare ++ .bare '=' :: ms).dropWhile p = .bare '=' :: ms := by
  have hbefore : ∀ m ∈ (a.key names).map Mark.bare, p m = true := by
    intro m hm
    obtain ⟨c, hc, rfl⟩ := List.mem_map.mp hm
    have hne : c ≠ '=' := fun heq => hkey (heq ▸ hc)
    rw [hp, decide_eq_true hne]
  have hstop : ¬ p (.bare '=') = true := by
    rw [hp]
    decide
  rw [List.takeWhile_append_of_pos hbefore, List.dropWhile_append_of_pos hbefore,
    List.takeWhile_cons_of_neg hstop, List.dropWhile_cons_of_neg hstop, List.append_nil]
  exact ⟨rfl, rfl⟩

theorem readAttribute_eq (hkey : '=' ∉ a.key names) (ms : List Mark) :
    readAttribute ((a.key names).map .bare ++ .bare '=' :: ms) = (a.key names, readValue ms) := by
  have hchars : ((a.key names).map Mark.bare).map Mark.char = a.key names := by
    rw [List.map_map]
    exact List.map_id _
  obtain ⟨hbefore, hvalue⟩ := split_key hkey (p := fun m => decide (m.char ≠ '=')) (fun _ => rfl) ms
  rw [readAttribute, hbefore, hvalue, hchars, List.tail_cons]

/-- A separator stands as it is in the text of an attribute only if it does in the key or in the
text of the value. -/
theorem not_mem_marks {c : Char} {ms : List Mark} (hne : c ≠ '=') (hkey : c ∉ a.key names)
    (h : .bare c ∉ ms) : .bare c ∉ (a.key names).map .bare ++ .bare '=' :: ms := by
  rw [List.mem_append, List.mem_cons, not_or, not_or]
  refine ⟨fun hmem => ?_, fun heq => hne (Mark.bare.inj heq), h⟩
  obtain ⟨d, hd, heq⟩ := List.mem_map.mp hmem
  exact hkey (Mark.bare.inj heq ▸ hd)

/-- The text of an attribute gives back what the attribute says. -/
theorem read_marks (h : Plain names) (a : Attribute) :
    Spells (a.chars names) (marks (a.chars names)) ∧
      readAttribute (marks (a.chars names)) = a.entry names ∧
      .bare ',' ∉ marks (a.chars names) := by
  obtain ⟨hequals, hcomma, hbackslash⟩ := a.not_mem_key h
  obtain ⟨ms, hvalue, hread, hms⟩ := exists_spells_valueChars a.shown
  have hspells := spells_chars hbackslash hvalue
  rw [hspells.marks_eq, readAttribute_eq hequals, hread, entry_eq]
  exact ⟨hspells, rfl, not_mem_marks (by decide) hcomma hms⟩

end Attribute

/-! ## Names -/

namespace Name

/-- What the text of a name says about the name, if types have some short names. -/
structure Legible (names : Oid → Option String) (name : Name) : Prop where
  /-- Key and value of every attribute are read off the text. -/
  read_eq : readEntries (name.textBy names).toList = name.entries.map (Attribute.entry names)
  /-- Names have one text if they have the same keys and values in the same order, and only then. -/
  text_eq_iff (other : Name) : name.textBy names = other.textBy names ↔
    name.entries.map (Attribute.entry names) = other.entries.map (Attribute.entry names)
  /-- A name with an attribute is not written like one without. -/
  undefined_iff : name.textBy names = "<undef>" ↔ name.entries = []
  /-- An attribute, if it is alone, is written as one without a text only if it has none. -/
  missing_iff : ∀ a ∈ name.entries, ∀ alone : Name, alone.entries = [a] →
    (alone.textBy names = (names a.oid).getD "?" ++ "=<undef>" ↔ a.text = none)

theorem chars_of_nil {name : Name} (h : name.entries = []) : name.chars names = undefined := by
  rw [chars, h]

theorem chars_of_ne_nil {name : Name} (h : name.entries ≠ []) :
    name.chars names = [','].intercalate (name.entries.reverse.map (Attribute.chars names)) := by
  rw [chars]
  split
  case h_1 hnil => exact absurd hnil h
  case h_2 => rfl

theorem chars_of_singleton {name : Name} {a : Attribute} (h : name.entries = [a]) :
    name.chars names = a.chars names := by
  rw [chars_of_ne_nil (h ▸ List.cons_ne_nil _ _), h]
  exact List.intercalate_singleton

theorem equals_mem_chars {name : Name} (h : name.entries ≠ []) : '=' ∈ name.chars names := by
  obtain ⟨a, as, heq⟩ := List.exists_cons_of_ne_nil (mt List.reverse_eq_nil_iff.mp h)
  rw [chars_of_ne_nil h, heq, List.map_cons]
  cases as with
  | nil => exact List.intercalate_singleton ▸ a.equals_mem_chars names
  | cons b as =>
    rw [List.map_cons, List.intercalate_cons_cons, List.append_assoc]
    exact List.mem_append_left _ (a.equals_mem_chars names)

theorem chars_eq_undefined_iff (names : Oid → Option String) (name : Name) :
    name.chars names = undefined ↔ name.entries = [] := by
  refine ⟨fun h => Decidable.byContradiction fun hne => ?_, chars_of_nil⟩
  have hmem : '=' ∈ name.chars names := equals_mem_chars hne
  rw [h] at hmem
  exact absurd hmem (by decide)

/-- The commas that stand as they are separate the attributes. -/
theorem splitOn_marks (hplain : Plain names) {name : Name} (h : name.entries ≠ []) :
    (marks (name.chars names)).splitOn (.bare ',') =
      name.entries.reverse.map fun a => marks (a.chars names) := by
  rw [chars_of_ne_nil h, (Spells.intercalate fun a _ => (a.read_marks hplain).1).marks_eq]
  refine List.splitOn_intercalate _ ?_ (by simpa using h)
  intro piece hpiece
  obtain ⟨a, -, rfl⟩ := List.mem_map.mp hpiece
  exact (a.read_marks hplain).2.2

theorem readEntries_chars (hplain : Plain names) (name : Name) :
    readEntries (name.chars names) = name.entries.map (Attribute.entry names) := by
  by_cases hnil : name.entries = []
  · rw [chars_of_nil hnil, hnil, readEntries, if_pos rfl]
    rfl
  have hne : name.chars names ≠ undefined := fun h => hnil ((name.chars_eq_undefined_iff _).mp h)
  have hentry : (readAttribute ∘ fun a => marks (Attribute.chars names a)) =
      Attribute.entry names := funext fun a => (a.read_marks hplain).2.1
  rw [readEntries, if_neg hne, splitOn_marks hplain hnil, List.map_map, hentry, List.map_reverse,
    List.reverse_reverse]

theorem chars_eq_of_entries {name other : Name}
    (h : name.entries.map (Attribute.entry names) = other.entries.map (Attribute.entry names)) :
    name.chars names = other.chars names := by
  by_cases hnil : name.entries = []
  · have hother : other.entries = [] := by
      rw [hnil, List.map_nil] at h
      exact List.map_eq_nil_iff.mp h.symm
    rw [chars_of_nil hnil, chars_of_nil hother]
  · have hother : other.entries ≠ [] := fun hother => by
      rw [hother, List.map_nil] at h
      exact hnil (List.map_eq_nil_iff.mp h)
    have hchars : ∀ as : List Attribute, as.map (Attribute.chars names) =
        (as.map (Attribute.entry names)).map fun e => e.1 ++ '=' :: Attribute.valueChars e.2 := by
      intro as
      rw [List.map_map]
      rfl
    rw [chars_of_ne_nil hnil, chars_of_ne_nil hother, List.map_reverse, List.map_reverse, hchars,
      hchars, h]

/-- **The text of a name says what the keys and values of its attributes are, in their order, and
nothing else**, if no short name has a separator in it. -/
theorem legible (hplain : Plain names) (name : Name) : name.Legible names where
  read_eq := by rw [textBy, String.toList_ofList, readEntries_chars hplain]
  text_eq_iff other := by
    rw [textBy, textBy, String.ofList_inj]
    refine ⟨fun h => ?_, chars_eq_of_entries⟩
    rw [← readEntries_chars hplain, ← readEntries_chars hplain, h]
  undefined_iff := by
    have hundefined : "<undef>" = String.ofList undefined := by decide
    rw [textBy, hundefined, String.ofList_inj, chars_eq_undefined_iff]
  missing_iff a _ alone halone := by
    have htext : (names a.oid).getD "?" ++ "=<undef>" =
        String.ofList (a.key names ++ '=' :: undefined) := by
      rw [String.ofList_append, Attribute.key, String.ofList_toList]
      rfl
    rw [textBy, htext, String.ofList_inj, chars_of_singleton halone, Attribute.chars,
      List.append_cancel_left_eq, List.cons_inj_right, Attribute.valueChars_eq_undefined_iff,
      Attribute.shown_eq_none_iff]

/-- A name with every character in its values that could be taken for something else, with a value
that reads like a missing one, and with a missing one. -/
def tangled : Name :=
  ⟨[[⟨⟨[2, 5, 4, 10]⟩, some "<undef>".toList⟩],
    [⟨⟨[2, 5, 4, 3]⟩, some " #a,b+c=\"d\\<e>;f \x00g".toList⟩, ⟨⟨[2, 5, 4, 11]⟩, none⟩],
    [⟨⟨[1, 2, 3]⟩, some " ".toList⟩]]⟩

theorem legible_tangled : Plain Oid.known ∧ tangled.Legible Oid.known ∧ tangled.text =
    "UNDEF=\\ ,OU=<undef>,CN=\\ #a\\,b\\+c\\=\\\"d\\\\\\<e\\>\\;f\\ ,O=\\<undef\\>" :=
  ⟨plain_known, legible plain_known tangled, by decide +kernel⟩

end Name

end SecureStream
