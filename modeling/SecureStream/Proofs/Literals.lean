import Mathlib.Data.List.TakeWhile
import SecureStream.Net.Literal

/-!
# Text of addresses

An address has one text, and it can be read back.

* `IpAddress.ofBytes?_eq_some_iff`: addresses and their network form;
* `Ipv4.Written`, `Ipv4.written_iff`: the dotted quad, said apart from how it is made;
* `Literal.Spells`: the digits of a number;
* `Literal.ipv4?_chars`, `Literal.groups_sepGroups`: parts of a literal, read from the front of a
  text;
* `Ipv6.LongestRun`, `Ipv6.longestZeros_spec`: which run of zero groups is left out;
* `Ipv6.Written`, `Ipv6.written_iff`: the recommended text of a version 6 address, said apart from
  how it is made;
* **`IpAddress.ofChars?_chars`**: an address is read back from its text.
-/

namespace SecureStream

/-! ## Network form -/

namespace Ipv6

/-- The group of two bytes. -/
theorem toNat_joinBytes (a b : UInt8) :
    (a.toUInt16 <<< 8 ||| b.toUInt16).toNat = a.toNat * 256 + b.toNat := by
  have ha := a.toNat_lt
  have hb := b.toNat_lt
  have hshift : (8 : UInt16).toNat % 16 = 8 := rfl
  have hmod : a.toNat * 256 % 2 ^ 16 = a.toNat <<< 8 := by
    rw [Nat.shiftLeft_eq]
    exact Nat.mod_eq_of_lt (by omega)
  rw [UInt16.toNat_or, UInt16.toNat_shiftLeft, UInt8.toNat_toUInt16, UInt8.toNat_toUInt16, hshift,
    Nat.shiftLeft_eq, hmod, ← Nat.shiftLeft_add_eq_or_of_lt hb, Nat.shiftLeft_eq]

theorem toNat_highByte (g : UInt16) : (g >>> 8).toUInt8.toNat = g.toNat / 256 := by
  have hg := g.toNat_lt
  have hshift : (8 : UInt16).toNat % 16 = 8 := rfl
  rw [UInt16.toNat_toUInt8, UInt16.toNat_shiftRight, hshift, Nat.shiftRight_eq_div_pow]
  omega

theorem highByte_joinBytes (a b : UInt8) :
    ((a.toUInt16 <<< 8 ||| b.toUInt16) >>> 8).toUInt8 = a := by
  have hb := b.toNat_lt
  rw [← UInt8.toNat_inj, toNat_highByte, toNat_joinBytes]
  omega

theorem lowByte_joinBytes (a b : UInt8) : (a.toUInt16 <<< 8 ||| b.toUInt16).toUInt8 = b := by
  have hb := b.toNat_lt
  rw [← UInt8.toNat_inj, UInt16.toNat_toUInt8, toNat_joinBytes]
  omega

theorem joinBytes_parts (g : UInt16) :
    (g >>> 8).toUInt8.toUInt16 <<< 8 ||| g.toUInt8.toUInt16 = g := by
  rw [← UInt16.toNat_inj, toNat_joinBytes, toNat_highByte, UInt16.toNat_toUInt8]
  omega

theorem pairUp_flatMap (gs : List UInt16) :
    pairUp (gs.flatMap fun (g : UInt16) => [(g >>> 8).toUInt8, g.toUInt8]) = gs := by
  induction gs with
  | nil => rfl
  | cons g gs ih =>
    rw [List.flatMap_cons, List.cons_append, List.cons_append, List.nil_append, pairUp, ih,
      joinBytes_parts]

theorem flatMap_pairUp : ∀ {bs : List UInt8}, 2 ∣ bs.length →
    ((pairUp bs).flatMap fun (g : UInt16) => [(g >>> 8).toUInt8, g.toUInt8]) = bs
  | [], _ => rfl
  | [_], h => absurd (Nat.dvd_one.mp h) (by decide)
  | a :: b :: bs, h => by
    have hbs : 2 ∣ bs.length := (Nat.dvd_add_left (Nat.dvd_refl 2)).mp h
    rw [pairUp, List.flatMap_cons, flatMap_pairUp hbs, highByte_joinBytes, lowByte_joinBytes]
    rfl

theorem length_toBytes (x : Ipv6) : x.toBytes.length = 16 := by
  obtain ⟨gs, hgs⟩ := x
  simp [toBytes, List.length_flatMap, List.map_const', hgs]

end Ipv6

namespace IpAddress

open Ipv6

/-- The network form of an address is 4 or 16 bytes, and any such bytes are one. -/
theorem ofBytes?_eq_some_iff {bs : List UInt8} {x : IpAddress} :
    ofBytes? bs = some x ↔ bs = x.toBytes := by
  constructor
  · intro h
    unfold ofBytes? at h
    split at h
    · cases h
      rfl
    · split at h
      · next hlength =>
        cases h
        exact (flatMap_pairUp (hlength ▸ by decide)).symm
      · cases h
  · rintro rfl
    cases x with
    | v4 x => rfl
    | v6 x =>
      have hlength : (v6 x).toBytes.length = 16 := length_toBytes x
      unfold ofBytes?
      split
      · next hquad =>
        rw [hquad] at hlength
        cases hlength
      · rw [dif_pos hlength]
        congr 2
        obtain ⟨gs, hgs⟩ := x
        congr 1
        exact pairUp_flatMap gs

theorem exists_toBytes_eq_iff {bs : List UInt8} :
    (∃ x : IpAddress, bs = x.toBytes) ↔ bs.length = 4 ∨ bs.length = 16 := by
  constructor
  · rintro ⟨_ | x, rfl⟩
    · exact .inl rfl
    · exact .inr (length_toBytes x)
  · rintro (h | h)
    · match bs, h with
      | [a, b, c, d], _ => exact ⟨v4 ⟨a, b, c, d⟩, rfl⟩
    · have hgroups : (pairUp bs).length = 8 := by rw [length_pairUp, h]
      exact ⟨v6 ⟨pairUp bs, hgroups⟩, (flatMap_pairUp (h ▸ by decide)).symm⟩

end IpAddress

/-! ## Dotted quads -/

namespace Ipv4

/-- The decimal form of a number below 1000: one, two or three digits, of which the first is zero
only if there is no other. -/
inductive Decimal : Nat → List Char → Prop
  | units {u} : u < 10 → Decimal u [Nat.digitChar u]
  | tens {t u} : 0 < t → t < 10 → u < 10 →
    Decimal (10 * t + u) [Nat.digitChar t, Nat.digitChar u]
  | hundreds {h t u} : 0 < h → h < 10 → t < 10 → u < 10 →
    Decimal (10 * (10 * h + t) + u) [Nat.digitChar h, Nat.digitChar t, Nat.digitChar u]

theorem Decimal.eq_toDigits {n : Nat} {text : List Char} (h : Decimal n text) :
    text = Nat.toDigits 10 n := by
  have hnext {n d : Nat} (hn : 0 < n) (hd : d < 10) :
      Nat.toDigits 10 (10 * n + d) = Nat.toDigits 10 n ++ [Nat.digitChar d] := by
    rw [← Nat.toDigits_append_toDigits (by decide) hn hd, Nat.toDigits_of_lt_base hd]
  cases h with
  | units hu => rw [Nat.toDigits_of_lt_base hu]
  | tens ht ht' hu =>
    rw [hnext ht hu, Nat.toDigits_of_lt_base ht']
    rfl
  | @hundreds h t u hh hh' ht hu =>
    have hpos : 0 < 10 * h + t := by omega
    rw [hnext hpos hu, hnext hh ht, Nat.toDigits_of_lt_base hh']
    rfl

theorem exists_decimal {n : Nat} (h : n < 1000) : ∃ text, Decimal n text := by
  by_cases hunits : n < 10
  · exact ⟨_, .units hunits⟩
  by_cases htens : n < 100
  · have hn : n = 10 * (n / 10) + n % 10 := by omega
    rw [hn]
    exact ⟨_, .tens (by omega) (by omega) (by omega)⟩
  · have hn : n = 10 * (10 * (n / 100) + n / 10 % 10) + n % 10 := by omega
    rw [hn]
    exact ⟨_, .hundreds (by omega) (by omega) (by omega) (by omega)⟩

theorem decimal_toDigits (o : UInt8) : Decimal o.toNat (Nat.toDigits 10 o.toNat) := by
  have ho := o.toNat_lt
  obtain ⟨text, htext⟩ := exists_decimal (n := o.toNat) (by omega)
  rwa [← htext.eq_toDigits]

/-- The text of an address: its four numbers with dots between them. -/
inductive Written (x : Ipv4) : List Char → Prop
  | intro {a b c d} : Decimal x.a.toNat a → Decimal x.b.toNat b → Decimal x.c.toNat c →
    Decimal x.d.toNat d → Written x (a ++ '.' :: (b ++ '.' :: (c ++ '.' :: d)))

theorem chars_eq (x : Ipv4) : x.chars = Nat.toDigits 10 x.a.toNat ++ '.' ::
    (Nat.toDigits 10 x.b.toNat ++ '.' :: (Nat.toDigits 10 x.c.toNat ++ '.' ::
      Nat.toDigits 10 x.d.toNat)) := by
  simp [chars, List.intercalate]

/-- The text that is made is the dotted quad, and there is no other. -/
theorem written_iff {x : Ipv4} {text : List Char} : x.Written text ↔ text = x.chars := by
  rw [chars_eq]
  constructor
  · rintro ⟨ha, hb, hc, hd⟩
    rw [ha.eq_toDigits, hb.eq_toDigits, hc.eq_toDigits, hd.eq_toDigits]
  · rintro rfl
    exact .intro (decimal_toDigits _) (decimal_toDigits _) (decimal_toDigits _) (decimal_toDigits _)

end Ipv4

/-! ## Numbers -/

namespace Literal

/-- The digits of a number in a base, without leading zeros. -/
structure Spells (base n : Nat) (ds : List Nat) : Prop where
  ne_nil : ds ≠ []
  lt : ∀ d ∈ ds, d < base
  value_eq : value base ds = n
  toDigits_eq : Nat.toDigits base n = ds.map Nat.digitChar
  leading : ds.head? = some 0 → ds = [0]

theorem value_append (base : Nat) (ds : List Nat) (d : Nat) :
    value base (ds ++ [d]) = value base ds * base + d := by
  rw [value, List.foldl_append]
  rfl

theorem exists_spells {base : Nat} (hbase : 1 < base) (n : Nat) : ∃ ds, Spells base n ds := by
  induction n using Nat.strongRecOn with
  | ind n ih =>
    by_cases hn : n < base
    · refine ⟨[n], List.cons_ne_nil _ _, List.forall_mem_singleton.mpr hn, ?_,
        Nat.toDigits_of_lt_base hn, ?_⟩
      · exact (congrArg (· + n) (Nat.zero_mul base)).trans (Nat.zero_add n)
      · exact fun h => congrArg (fun d => [d]) (Option.some.inj h)
    · have hle := Nat.le_of_not_lt hn
      have hpos : 0 < n / base := Nat.div_pos hle (Nat.zero_lt_of_lt hbase)
      obtain ⟨ds, hds⟩ := ih (n / base) (Nat.div_lt_self (Nat.lt_of_lt_of_le
        (Nat.zero_lt_of_lt hbase) hle) hbase)
      refine ⟨ds ++ [n % base], List.append_ne_nil_of_right_ne_nil _ (List.cons_ne_nil _ _), ?_, ?_,
        ?_, ?_⟩
      · intro d hd
        rcases List.mem_append.mp hd with hd | hd
        · exact hds.lt d hd
        · rw [List.mem_singleton.mp hd]
          exact Nat.mod_lt n (Nat.zero_lt_of_lt hbase)
      · rw [value_append, hds.value_eq]
        exact Nat.div_add_mod' n base
      · rw [Nat.toDigits_of_base_le hbase hle, hds.toDigits_eq, List.map_append]
        rfl
      · -- The digits in front are those of a number that is not zero.
        intro h
        rw [List.head?_append, Option.or_of_isSome (List.isSome_head?.mpr hds.ne_nil)] at h
        have hzero : value base [0] = 0 := by simp [value]
        have hvalue := hds.value_eq
        rw [hds.leading h, hzero] at hvalue
        exact absurd hvalue (Nat.ne_of_lt hpos)

/-- No digit stands in front of a text. -/
def Clear (cs : List Char) : Prop := ∀ c ∈ cs.head?, hexDigit? c = none

theorem digit?_digitChar {base d : Nat} (hbase : base ≤ 16) (hd : d < base) :
    digit? base (Nat.digitChar d) = some d := by
  have hall : ∀ d < 16, hexDigit? (Nat.digitChar d) = some d := by decide
  rw [digit?, hall d (Nat.lt_of_lt_of_le hd hbase), Option.filter_some, if_pos (decide_eq_true hd)]

theorem digits_of_clear {base : Nat} {cs : List Char} (h : Clear cs) :
    digits base cs = ([], cs) := by
  cases cs with
  | nil => rfl
  | cons c cs =>
    have hc : hexDigit? c = none := h c rfl
    rw [digits, digit?, hc]
    rfl

/-- All digits in front of a text are taken. -/
theorem digits_map {base : Nat} (hbase : base ≤ 16) {ds : List Nat} (hds : ∀ d ∈ ds, d < base)
    {rest : List Char} (hrest : Clear rest) :
    digits base (ds.map Nat.digitChar ++ rest) = (ds, rest) := by
  induction ds with
  | nil => exact digits_of_clear hrest
  | cons d ds ih =>
    obtain ⟨hd, hds⟩ := List.forall_mem_cons.mp hds
    rw [List.map_cons, List.cons_append, digits, digit?_digitChar hbase hd, ih hds]

/-- A number is read back from its digits. -/
theorem exists_digits_toDigits {base : Nat} (hbase : 1 < base) (hbase' : base ≤ 16) (n : Nat)
    {rest : List Char} (hrest : Clear rest) :
    ∃ ds, digits base (Nat.toDigits base n ++ rest) = (ds, rest) ∧ Spells base n ds := by
  obtain ⟨ds, hds⟩ := exists_spells hbase n
  exact ⟨ds, hds.toDigits_eq ▸ digits_map hbase' hds.lt hrest, hds⟩

theorem Spells.length_eq {base n : Nat} {ds : List Nat} (h : Spells base n ds) :
    ds.length = (Nat.toDigits base n).length := by
  rw [h.toDigits_eq, List.length_map]

theorem octet?_toDigits (o : UInt8) {rest : List Char} (hrest : Clear rest) :
    octet? (Nat.toDigits 10 o.toNat ++ rest) = some (o, rest) := by
  obtain ⟨ds, hdigits, hds⟩ :=
    exists_digits_toDigits (by decide : 1 < 10) (by decide) o.toNat hrest
  have ho := o.toNat_lt
  have hlength : ds.length ≤ 3 := by
    rw [hds.length_eq, Nat.length_toDigits_le_iff (by decide) (by decide)]
    exact Nat.lt_trans ho (by decide)
  have hvalue : value 10 ds ≤ 255 := hds.value_eq ▸ Nat.le_of_lt_succ ho
  rw [octet?, hdigits]
  split
  · next heq => exact absurd (Prod.mk.inj heq).1 hds.ne_nil
  · next heq =>
    rw [(Prod.mk.inj heq).1] at hds
    exact absurd (hds.leading rfl) (by simp)
  · next heq =>
    obtain ⟨rfl, rfl⟩ := Prod.mk.inj heq
    rw [if_pos ⟨hlength, hvalue⟩, hds.value_eq, UInt8.ofNat_toNat]

theorem group?_groupChars (g : UInt16) {rest : List Char} (hrest : Clear rest) :
    group? (Ipv6.groupChars g ++ rest) = some (g, rest) := by
  obtain ⟨ds, hdigits, hds⟩ :=
    exists_digits_toDigits (by decide : 1 < 16) (by decide) g.toNat hrest
  have hlength : ds.length ≤ 4 := by
    rw [hds.length_eq, Nat.length_toDigits_le_iff (by decide) (by decide)]
    exact g.toNat_lt
  rw [group?, Ipv6.groupChars, hdigits]
  split
  · next heq => exact absurd (Prod.mk.inj heq).1 hds.ne_nil
  · next heq =>
    obtain ⟨rfl, rfl⟩ := Prod.mk.inj heq
    rw [if_pos hlength, hds.value_eq, UInt16.ofNat_toNat]

/-! ## Dotted quads -/

theorem clear_dot (cs : List Char) : Clear ('.' :: cs) := by
  rintro c ⟨⟩
  decide

theorem clear_colon (cs : List Char) : Clear (':' :: cs) := by
  rintro c ⟨⟩
  decide

theorem clear_nil : Clear [] := fun _ h => nomatch h

/-- A dotted quad is read from the front of a text. -/
theorem ipv4?_chars (x : Ipv4) {rest : List Char} (hrest : Clear rest) :
    ipv4? (x.chars ++ rest) = some (x, rest) := by
  have hchars : x.chars ++ rest = Nat.toDigits 10 x.a.toNat ++ '.' ::
      (Nat.toDigits 10 x.b.toNat ++ '.' :: (Nat.toDigits 10 x.c.toNat ++ '.' ::
        (Nat.toDigits 10 x.d.toNat ++ rest))) := by
    simp [Ipv4.chars_eq]
  rw [hchars]
  simp [ipv4?, octet?_toDigits, clear_dot, hrest, char?]

theorem digits_suffix (base : Nat) (cs : List Char) : (digits base cs).2 <:+ cs := by
  induction cs with
  | nil => exact List.suffix_refl _
  | cons c cs ih =>
    rw [digits]
    split
    · exact ih.trans (List.suffix_cons c cs)
    · exact List.suffix_refl _

theorem octet?_suffix {cs rest : List Char} {o : UInt8} (h : octet? cs = some (o, rest)) :
    rest <:+ cs := by
  have hsuffix := digits_suffix 10 cs
  rw [octet?] at h
  split at h
  · cases h
  · cases h
  · next heq =>
    rw [heq] at hsuffix
    split at h
    · cases h
      exact hsuffix
    · cases h

theorem char?_of_notMem {c : Char} {cs : List Char} (h : c ∉ cs) : char? c cs = none := by
  cases cs with
  | nil => rfl
  | cons x cs => exact if_neg (Ne.symm (List.ne_of_not_mem_cons h))

/-- Without a dot there is no dotted quad. -/
theorem ipv4?_of_notMem {cs : List Char} (h : '.' ∉ cs) : ipv4? cs = none := by
  rw [ipv4?]
  cases hoctet : octet? cs with
  | none => rfl
  | some r =>
    have hrest : '.' ∉ r.2 := fun hdot => h ((octet?_suffix hoctet).subset hdot)
    simp [char?_of_notMem hrest]

/-! ## Groups -/

open Ipv6

/-- Groups that are numbered from `i` on, with what stands before each. -/
def sepGroups (i : Nat) (gs : List UInt16) : List Char :=
  if i = 0 then joinGroups gs else gs.flatMap fun g => ':' :: groupChars g

theorem sepGroups_nil (i : Nat) : sepGroups i [] = [] := by
  rw [sepGroups]
  split <;> rfl

theorem sepGroups_succ_cons (i : Nat) (g : UInt16) (gs : List UInt16) :
    sepGroups (i + 1) (g :: gs) = ':' :: groupChars g ++ sepGroups (i + 1) gs := by
  simp [sepGroups]

theorem sepGroups_zero_cons (g : UInt16) (gs : List UInt16) :
    sepGroups 0 (g :: gs) = groupChars g ++ sepGroups 1 gs := by
  induction gs generalizing g with
  | nil => simp [sepGroups, joinGroups]
  | cons g' gs ih =>
    have hjoin : joinGroups (g :: g' :: gs) = groupChars g ++ ':' :: joinGroups (g' :: gs) := by
      simp [joinGroups, List.intercalate]
    rw [sepGroups_succ_cons, List.cons_append, ← ih]
    exact hjoin

theorem dot_notMem_groupChars (g : UInt16) : '.' ∉ groupChars g := by
  obtain ⟨ds, hds⟩ := exists_spells (by decide : 1 < 16) g.toNat
  have hall : ∀ d < 16, Nat.digitChar d ≠ '.' := by decide
  rw [groupChars, hds.toDigits_eq]
  intro hdot
  obtain ⟨d, hd, hdot⟩ := List.mem_map.mp hdot
  exact hall d (hds.lt d hd) hdot

theorem dot_notMem_sepGroups (i : Nat) (gs : List UInt16) : '.' ∉ sepGroups i gs := by
  have hsucc (i : Nat) (gs : List UInt16) : '.' ∉ sepGroups (i + 1) gs := by
    induction gs with
    | nil => exact sepGroups_nil (i + 1) ▸ List.not_mem_nil
    | cons g gs ih => simp [sepGroups_succ_cons, dot_notMem_groupChars, ih]
  cases i with
  | succ i => exact hsucc i gs
  | zero =>
    cases gs with
    | nil => exact sepGroups_nil 0 ▸ List.not_mem_nil
    | cons g gs => simp [sepGroups_zero_cons, dot_notMem_groupChars, hsucc 0 gs]

/-- The end of some groups: that of the text, or two colons. -/
def Stops (rest : List Char) : Prop := rest = [] ∨ ∃ more, rest = ':' :: ':' :: more

theorem separator?_suffix {i : Nat} {cs rest : List Char} (h : separator? i cs = some rest) :
    rest <:+ cs := by
  rw [separator?] at h
  split at h
  · cases h
    exact List.suffix_refl _
  · cases cs with
    | nil => cases h
    | cons c cs =>
      rw [char?] at h
      split at h
      · exact Option.some.inj h ▸ List.suffix_cons c cs
      · cases h

theorem separator?_bind_ipv4? {cs : List Char} (i : Nat) (h : '.' ∉ cs) :
    (separator? i cs).bind ipv4? = none := by
  cases hsep : separator? i cs with
  | none => rfl
  | some rest => exact ipv4?_of_notMem fun hdot => h ((separator?_suffix hsep).subset hdot)

theorem Stops.separator?_bind {rest : List Char} (h : Stops rest) (i : Nat) :
    (separator? i rest).bind group? = none := by
  rcases h with rfl | ⟨more, rfl⟩ <;> cases i with
  | zero => rfl
  | succ i => rfl

theorem clear_sepGroups (i : Nat) (gs : List UInt16) {rest : List Char} (h : Stops rest) :
    Clear (sepGroups (i + 1) gs ++ rest) := by
  cases gs with
  | nil =>
    rw [sepGroups_nil, List.nil_append]
    rcases h with rfl | ⟨more, rfl⟩
    · exact clear_nil
    · exact clear_colon _
  | cons g gs =>
    rw [sepGroups_succ_cons]
    exact clear_colon _

theorem separator?_sepGroups (i : Nat) (g : UInt16) (gs : List UInt16) (rest : List Char) :
    separator? i (sepGroups i (g :: gs) ++ rest) =
      some (groupChars g ++ (sepGroups (i + 1) gs ++ rest)) := by
  cases i with
  | zero =>
    rw [sepGroups_zero_cons, List.append_assoc]
    rfl
  | succ i =>
    rw [sepGroups_succ_cons, List.append_assoc]
    rfl

section

variable {i room : Nat} {cs rest : List Char}

theorem groups_of_quad {x : Ipv4} (hroom : room ≠ 0)
    (h : (separator? i cs).bind ipv4? = some (x, rest)) :
    groups i (room + 1) cs = (quadGroups x, true, rest) := by
  simp only [groups, if_neg hroom, h]

theorem groups_of_group {g : UInt16} (hquad : (separator? i cs).bind ipv4? = none)
    (h : (separator? i cs).bind group? = some (g, rest)) :
    groups i (room + 1) cs = (g :: (groups (i + 1) room rest).1, (groups (i + 1) room rest).2) := by
  simp only [groups, hquad, ite_self, h]

theorem groups_of_neither (hquad : (separator? i cs).bind ipv4? = none)
    (h : (separator? i cs).bind group? = none) : groups i room cs = ([], false, cs) := by
  cases room with
  | zero => rfl
  | succ room => simp only [groups, hquad, ite_self, h]

end

/-- Groups are read from the front of a text without dots. -/
theorem groups_sepGroups {i room : Nat} {gs : List UInt16} {rest : List Char}
    (hroom : gs.length ≤ room) (hrest : Stops rest) (hdot : '.' ∉ rest) :
    groups i room (sepGroups i gs ++ rest) = (gs, false, rest) := by
  induction gs generalizing i room with
  | nil =>
    rw [sepGroups_nil, List.nil_append]
    exact groups_of_neither (separator?_bind_ipv4? i hdot) (hrest.separator?_bind i)
  | cons g gs ih =>
    cases room with
    | zero => cases hroom
    | succ room =>
      have hdots : '.' ∉ sepGroups i (g :: gs) ++ rest := fun h =>
        (List.mem_append.mp h).elim (dot_notMem_sepGroups i _) hdot
      have hgroup : (separator? i (sepGroups i (g :: gs) ++ rest)).bind group? =
          some (g, sepGroups (i + 1) gs ++ rest) := by
        rw [separator?_sepGroups, Option.bind_some,
          group?_groupChars g (clear_sepGroups i gs hrest)]
      rw [groups_of_group (separator?_bind_ipv4? i hdots) hgroup,
        ih (Nat.le_of_succ_le_succ hroom)]

end Literal

/-! ## Version 6 -/

namespace Ipv6

open Literal

/-- A run of zero groups stands in some groups, and none is longer or, of the same length, further
in front. -/
structure LongestRun (gs before : List UInt16) (n : Nat) (after : List UInt16) : Prop where
  eq_append : gs = before ++ List.replicate n 0 ++ after
  longest : ∀ b m a, gs = b ++ List.replicate m 0 ++ a → m ≤ n ∧ (m = n → before.length ≤ b.length)

theorem le_zerosAhead {m : Nat} {gs a : List UInt16} (h : gs = List.replicate m 0 ++ a) :
    m ≤ zerosAhead gs := by
  rw [h, zerosAhead, List.takeWhile_append_of_pos (by simp), List.length_append,
    List.length_replicate]
  exact Nat.le_add_right _ _

theorem exists_eq_replicate_zerosAhead (gs : List UInt16) :
    ∃ after, gs = List.replicate (zerosAhead gs) 0 ++ after := by
  refine ⟨gs.dropWhile (· = 0), ?_⟩
  have hzeros : gs.takeWhile (· = 0) = List.replicate (zerosAhead gs) 0 :=
    List.eq_replicate_iff.mpr ⟨rfl, fun g hg => by simpa using List.mem_takeWhile_imp hg⟩
  rw [← hzeros, List.takeWhile_append_dropWhile]

/-- The run that is found is the longest one. -/
theorem longestZeros_spec (gs : List UInt16) : ∃ before after,
    before.length = (longestZeros gs).1 ∧ LongestRun gs before (longestZeros gs).2 after := by
  induction gs with
  | nil =>
    refine ⟨[], [], rfl, rfl, fun b m a h => ?_⟩
    have hm : m = 0 := by
      have hlength := congrArg List.length h
      simp at hlength
      omega
    exact ⟨Nat.le_of_eq hm, fun _ => Nat.zero_le _⟩
  | cons g gs ih =>
    obtain ⟨before, after, hlength, heq, hlongest⟩ := ih
    rw [longestZeros]
    split
    · next hle =>
      obtain ⟨after', hafter'⟩ := exists_eq_replicate_zerosAhead (g :: gs)
      refine ⟨[], after', rfl, hafter', fun b m a h => ⟨?_, fun _ => Nat.zero_le _⟩⟩
      cases b with
      | nil => exact le_zerosAhead h
      | cons g' b => exact Nat.le_trans (hlongest b m a (List.cons.inj h).2).1 hle
    · next hlt =>
      refine ⟨g :: before, after, congrArg (· + 1) hlength, congrArg (g :: ·) heq,
        fun b m a h => ?_⟩
      cases b with
      | nil =>
        have hm := le_zerosAhead h
        exact ⟨by omega, fun _ => by omega⟩
      | cons g' b =>
        obtain ⟨hm, hbefore⟩ := hlongest b m a (List.cons.inj h).2
        exact ⟨hm, fun h => Nat.succ_le_succ (hbefore h)⟩

/-- There is only one such run. -/
theorem LongestRun.unique {gs before before' after after' : List UInt16} {n n' : Nat}
    (h : LongestRun gs before n after) (h' : LongestRun gs before' n' after') :
    before = before' ∧ n = n' ∧ after = after' := by
  have hn : n = n' := Nat.le_antisymm (h'.longest _ _ _ h.eq_append).1
    (h.longest _ _ _ h'.eq_append).1
  subst hn
  have hbefore : before.length = before'.length := Nat.le_antisymm
    ((h.longest _ _ _ h'.eq_append).2 rfl) ((h'.longest _ _ _ h.eq_append).2 rfl)
  have heq := h.eq_append.symm.trans h'.eq_append
  rw [List.append_assoc, List.append_assoc] at heq
  obtain ⟨hb, ha⟩ := List.append_inj heq hbefore
  exact ⟨hb, rfl, List.append_cancel_left ha⟩

/-- The address stands for one of version 4, which its last two groups are. -/
def StandsFor (x : Ipv6) (y : Ipv4) : Prop := x.groups = [0, 0, 0, 0, 0, 0xffff] ++ quadGroups y

theorem mapped?_eq_some_iff {x : Ipv6} {y : Ipv4} : x.mapped? = some y ↔ x.StandsFor y := by
  constructor
  · intro h
    rw [mapped?] at h
    split at h
    · next g k hgroups =>
      cases h
      rw [StandsFor, hgroups, quadGroups, joinBytes_parts, joinBytes_parts]
      rfl
    · cases h
  · obtain ⟨gs, hgs⟩ := x
    intro h
    obtain rfl : gs = _ := h
    simp only [mapped?, quadGroups, List.cons_append, List.nil_append, highByte_joinBytes,
      lowByte_joinBytes]

/-- The text of an address. An address that stands for one of version 4 shows that one. In others
the longest run of zero groups is left out, the first one of several, and never a single group. -/
inductive Written (x : Ipv6) : List Char → Prop
  | mapped {y quad} : x.StandsFor y → y.Written quad → Written x ("::ffff:".toList ++ quad)
  | shortened {before n after} : (∀ y, ¬ x.StandsFor y) → LongestRun x.groups before n after →
    1 < n → Written x (joinGroups before ++ "::".toList ++ joinGroups after)
  | whole : (∀ y, ¬ x.StandsFor y) → (∀ before after, x.groups ≠ before ++ [0, 0] ++ after) →
    Written x (joinGroups x.groups)

theorem groupsText_eq {gs before after : List UInt16} {n : Nat} (h : LongestRun gs before n after) :
    groupsText gs =
      if 1 < n then joinGroups before ++ "::".toList ++ joinGroups after else joinGroups gs := by
  obtain ⟨before', after', hlength, hrun⟩ := longestZeros_spec gs
  obtain ⟨rfl, hn, rfl⟩ := h.unique hrun
  have htake : gs.take before.length = before := by
    rw [h.eq_append, List.append_assoc, List.take_left]
  have hfront : (before ++ List.replicate n 0).length = before.length + n := by simp
  have hdrop : gs.drop (before.length + n) = after := by
    rw [h.eq_append, ← hfront, List.drop_left]
  simp only [groupsText, ← hlength, ← hn, htake, hdrop]
  rfl

/-- The text that is made is the recommended one, and there is no other. -/
theorem written_iff {x : Ipv6} {text : List Char} : x.Written text ↔ text = x.chars := by
  obtain ⟨before, after, -, hrun⟩ := longestZeros_spec x.groups
  have htext := groupsText_eq hrun
  have hnone : (∀ y, ¬ x.StandsFor y) ↔ x.mapped? = none := by
    simp only [Option.eq_none_iff_forall_ne_some, ne_eq, mapped?_eq_some_iff]
  constructor
  · rintro (⟨h, hquad⟩ | ⟨hplain, h, hn⟩ | ⟨hplain, h⟩)
    · rw [chars, mapped?_eq_some_iff.mpr h, Ipv4.written_iff.mp hquad]
    · obtain ⟨rfl, rfl, rfl⟩ := h.unique hrun
      rw [chars, hnone.mp hplain]
      exact ((htext.trans (if_pos hn)).symm)
    · have hn : ¬ 1 < (longestZeros x.groups).2 := by
        intro hn
        obtain ⟨m, hm⟩ := Nat.exists_eq_add_of_le hn
        refine h before (List.replicate m 0 ++ after) ?_
        conv => lhs; rw [hrun.eq_append, hm, ← List.replicate_append_replicate]
        simp
      rw [chars, hnone.mp hplain]
      exact (htext.trans (if_neg hn)).symm
  · rintro rfl
    cases hmapped : x.mapped? with
    | some y =>
      rw [chars, hmapped]
      exact .mapped (mapped?_eq_some_iff.mp hmapped) (Ipv4.written_iff.mpr rfl)
    | none =>
      have hplain := hnone.mpr hmapped
      rw [chars, hmapped]
      dsimp only
      rw [htext]
      split
      · next hn => exact .shortened hplain hrun hn
      · next hn =>
        refine .whole hplain fun b a h => hn ?_
        exact (hrun.longest b 2 a h).1

theorem dot_notMem_joinGroups (gs : List UInt16) : '.' ∉ joinGroups gs := dot_notMem_sepGroups 0 gs

theorem dot_notMem_groupsText (gs : List UInt16) : '.' ∉ groupsText gs := by
  obtain ⟨before, after, -, hrun⟩ := longestZeros_spec gs
  rw [groupsText_eq hrun]
  split
  · simp [dot_notMem_joinGroups]
  · exact dot_notMem_joinGroups gs

/-- Groups are read back from their text. -/
theorem ipv6?_groupsText {gs : List UInt16} (hgs : gs.length = 8) :
    ipv6? (groupsText gs) = some (gs, []) := by
  obtain ⟨before, after, -, hrun⟩ := longestZeros_spec gs
  have hlength := congrArg List.length hrun.eq_append
  simp only [List.length_append, List.length_replicate] at hlength
  have hstops : Stops [] := .inl rfl
  rw [groupsText_eq hrun]
  split
  · next hn =>
    have hdot : '.' ∉ ':' :: ':' :: joinGroups after := by simp [dot_notMem_joinGroups]
    have hhead : Literal.groups 0 8 (sepGroups 0 before ++ ':' :: ':' :: joinGroups after) =
        (before, false, ':' :: ':' :: joinGroups after) :=
      groups_sepGroups (by omega) (.inr ⟨_, rfl⟩) hdot
    have htail : Literal.groups 0 (7 - before.length) (sepGroups 0 after ++ []) =
        (after, false, []) := groups_sepGroups (by omega) hstops List.not_mem_nil
    rw [List.append_nil] at htail
    have hjoin (gs : List UInt16) : joinGroups gs = sepGroups 0 gs := rfl
    have hzeros : 8 - before.length - after.length = (longestZeros gs).2 := by omega
    have hne : before.length ≠ 8 := by omega
    have htext : joinGroups before ++ "::".toList ++ joinGroups after =
        sepGroups 0 before ++ ':' :: ':' :: joinGroups after := List.append_assoc ..
    rw [htext, ipv6?, hhead]
    dsimp only
    rw [if_neg hne, hjoin after]
    simp only [char?, if_true, Option.bind_eq_bind, Option.bind_some]
    rw [htail]
    simp only [hzeros, ← hrun.eq_append]
    rfl
  · have hall : Literal.groups 0 8 (sepGroups 0 gs ++ []) = (gs, false, []) :=
      groups_sepGroups (Nat.le_of_eq hgs) hstops List.not_mem_nil
    rw [List.append_nil] at hall
    have hjoin : joinGroups gs = sepGroups 0 gs := rfl
    rw [ipv6?, hjoin, hall]
    simp [hgs]

/-- The last two groups are read from the dotted quad that they are written as. -/
theorem groups_mapped (y : Ipv4) :
    Literal.groups 0 7 ("ffff:".toList ++ y.chars) = (0xffff :: quadGroups y, true, []) := by
  have hquad := ipv4?_chars y clear_nil
  rw [List.append_nil] at hquad
  have hlast : Literal.groups 1 6 (':' :: y.chars) = (quadGroups y, true, []) :=
    groups_of_quad (by decide) hquad
  have hgroup : (separator? 0 ("ffff:".toList ++ y.chars)).bind group? =
      some (0xffff, ':' :: y.chars) := rfl
  rw [groups_of_group rfl hgroup, hlast]

theorem ipv6?_mapped (y : Ipv4) : ipv6? ("::ffff:".toList ++ y.chars) =
    some ([0, 0, 0, 0, 0, 0xffff] ++ quadGroups y, []) := by
  have hhead : Literal.groups 0 8 ("::ffff:".toList ++ y.chars) =
      ([], false, "::ffff:".toList ++ y.chars) := groups_of_neither rfl rfl
  have hcolons : "::ffff:".toList ++ y.chars = ':' :: ':' :: ("ffff:".toList ++ y.chars) := rfl
  rw [ipv6?, hhead, hcolons]
  simp only [char?, if_true, Option.bind_eq_bind, Option.bind_some, List.length_nil]
  rw [groups_mapped]
  rfl

end Ipv6

/-- **An address is read back from its text.** -/
theorem IpAddress.ofChars?_chars (x : IpAddress) : ofChars? x.chars = some x := by
  cases x with
  | v4 x =>
    have hquad := Literal.ipv4?_chars x Literal.clear_nil
    rw [List.append_nil] at hquad
    rw [ofChars?, chars, hquad]
    rfl
  | v6 x =>
    have hread : Literal.ipv4? x.chars = none ∧ Literal.ipv6? x.chars = some (x.groups, []) := by
      cases hmapped : x.mapped? with
      | some y =>
        rw [Ipv6.chars, hmapped, Ipv6.mapped?_eq_some_iff.mp hmapped]
        exact ⟨rfl, Ipv6.ipv6?_mapped y⟩
      | none =>
        rw [Ipv6.chars, hmapped]
        exact ⟨Literal.ipv4?_of_notMem (Ipv6.dot_notMem_groupsText _),
          Ipv6.ipv6?_groupsText x.length_groups⟩
    rw [ofChars?, chars, hread.1, hread.2]
    exact dif_pos x.length_groups

end SecureStream
