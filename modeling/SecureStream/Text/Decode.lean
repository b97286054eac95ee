/-!
# Encoded text

Reading characters from bytes. Every reader refuses what is no Unicode scalar value.

* `scalar?`: the character of a code point;
* `utf8?`: UTF-8, shortest forms only;
* `latin1`: one byte a character;
* `ucs2?`, `ucs4?`: two or four bytes a character, the most significant byte first;
* `utf8`: the UTF-8 form of characters;
* `utf8?_utf8`, `utf8_of_utf8?`: a text is read again from its UTF-8 form, and from nothing else.
-/

namespace SecureStream.Text

/-- The character of a code point, unless it is a surrogate or too large. -/
def scalar? (n : Nat) : Option Char := if n.isValidChar then some (.ofNat n) else none

/-- The character of a code point that is at least `least`, in front of the others. -/
def putScalar (least n : Nat) (rest : Option (List Char)) : Option (List Char) :=
  if least ≤ n then do return (← scalar? n) :: (← rest) else none

/-- The six bits of a continuation byte. -/
def continuation? (b : UInt8) : Option Nat :=
  if 0x80 ≤ b ∧ b < 0xc0 then some (b.toNat - 0x80) else none

/-- The characters of a UTF-8 text. -/
def utf8? : List UInt8 → Option (List Char)
  | [] => some []
  | b :: bs =>
    if b < 0x80 then
      putScalar 0 b.toNat (utf8? bs)
    else if b < 0xc0 then
      none
    else if b < 0xe0 then
      match bs with
      | c :: bs => do
        let c ← continuation? c
        putScalar 0x80 ((b.toNat - 0xc0) * 0x40 + c) (utf8? bs)
      | _ => none
    else if b < 0xf0 then
      match bs with
      | c :: d :: bs => do
        let c ← continuation? c
        let d ← continuation? d
        putScalar 0x800 (((b.toNat - 0xe0) * 0x40 + c) * 0x40 + d) (utf8? bs)
      | _ => none
    else if b < 0xf8 then
      match bs with
      | c :: d :: e :: bs => do
        let c ← continuation? c
        let d ← continuation? d
        let e ← continuation? e
        putScalar 0x10000 ((((b.toNat - 0xf0) * 0x40 + c) * 0x40 + d) * 0x40 + e) (utf8? bs)
      | _ => none
    else
      none

/-- The characters of a text with one byte a character. -/
def latin1 (bs : List UInt8) : List Char := bs.map fun b => .ofNat b.toNat

/-- The characters of a text with two bytes a character. -/
def ucs2? : List UInt8 → Option (List Char)
  | [] => some []
  | a :: b :: bs => putScalar 0 (a.toNat * 0x100 + b.toNat) (ucs2? bs)
  | _ => none

/-- The characters of a text with four bytes a character. -/
def ucs4? : List UInt8 → Option (List Char)
  | [] => some []
  | a :: b :: c :: d :: bs =>
    putScalar 0 (((a.toNat * 0x100 + b.toNat) * 0x100 + c.toNat) * 0x100 + d.toNat) (ucs4? bs)
  | _ => none

/-- The UTF-8 form of characters. -/
def utf8 (cs : List Char) : List UInt8 := cs.flatMap String.utf8EncodeChar

/-! ## Reading what was written -/

theorem putScalar_of_eq {least n : Nat} {c : Char} (hn : n = c.toNat) (h : least ≤ n)
    (rest : Option (List Char)) : putScalar least n rest = rest.map (c :: ·) := by
  have hvalid : n.isValidChar := hn ▸ c.valid
  rw [putScalar, if_pos h, scalar?, if_pos hvalid, hn, Char.ofNat_toNat]
  cases rest <;> rfl

theorem ofNat_lt_iff {n : Nat} (h : n < 0x100) (k : UInt8) : UInt8.ofNat n < k ↔ n < k.toNat := by
  rw [UInt8.lt_iff_toNat_lt, UInt8.toNat_ofNat_of_lt' h]

theorem continuation?_ofNat (n : Nat) :
    continuation? (UInt8.ofNat (n % 0x40 + 0x80)) = some (n % 0x40) := by
  have hn : n % 0x40 + 0x80 < 0xc0 := by omega
  have hnat : (UInt8.ofNat (n % 0x40 + 0x80)).toNat = n % 0x40 + 0x80 :=
    UInt8.toNat_ofNat_of_lt' (Nat.lt_trans hn (by decide))
  have hrange : 0x80 ≤ UInt8.ofNat (n % 0x40 + 0x80) ∧ UInt8.ofNat (n % 0x40 + 0x80) < 0xc0 := by
    rw [UInt8.le_iff_toNat_le, UInt8.lt_iff_toNat_lt, hnat]
    exact ⟨Nat.le_add_left _ _, hn⟩
  rw [continuation?, if_pos hrange, hnat, Nat.add_sub_cancel]

/-- The form of a character in front of a text is read as that character. -/
theorem utf8?_append (c : Char) (bs : List UInt8) :
    utf8? (String.utf8EncodeChar c ++ bs) = (utf8? bs).map (c :: ·) := by
  have hval : c.val.toNat = c.toNat := rfl
  have hlt : c.toNat < 0x110000 := by
    have hvalid : c.toNat < 0xd800 ∨ 0xdfff < c.toNat ∧ c.toNat < 0x110000 := c.valid
    omega
  have hnat {n : Nat} (h : n < 0x100) : (UInt8.ofNat n).toNat = n := UInt8.toNat_ofNat_of_lt' h
  simp only [String.utf8EncodeChar, hval]
  split
  case isTrue h =>
    have hn : c.toNat < 0x100 := by omega
    have hlead : UInt8.ofNat c.toNat < 0x80 := (ofNat_lt_iff hn _).mpr (Nat.lt_succ_of_le h)
    have hread : utf8? (UInt8.ofNat c.toNat :: bs) =
        putScalar 0 (UInt8.ofNat c.toNat).toNat (utf8? bs) := by
      conv => lhs; unfold utf8?
      exact if_pos hlead
    rw [List.singleton_append, hread]
    exact putScalar_of_eq (hnat hn) (Nat.zero_le _) _
  split
  case isTrue h =>
    have hn : c.toNat / 64 % 32 + 192 < 0x100 := by omega
    simp only [List.cons_append, List.nil_append, utf8?, ofNat_lt_iff hn, continuation?_ofNat,
      hnat hn, Option.bind_some, Option.bind_eq_bind]
    rw [if_neg (by simp), if_neg (by simp), if_pos (by simp; omega)]
    exact putScalar_of_eq (by omega) (by omega) _
  split
  case isTrue h =>
    have hn : c.toNat / 4096 % 16 + 224 < 0x100 := by omega
    simp only [List.cons_append, List.nil_append, utf8?, ofNat_lt_iff hn, continuation?_ofNat,
      hnat hn, Option.bind_some, Option.bind_eq_bind]
    rw [if_neg (by simp), if_neg (by simp), if_neg (by simp), if_pos (by simp; omega)]
    exact putScalar_of_eq (by omega) (by omega) _
  case isFalse h =>
    have hn : c.toNat / 262144 % 8 + 240 < 0x100 := by omega
    simp only [List.cons_append, List.nil_append, utf8?, ofNat_lt_iff hn, continuation?_ofNat,
      hnat hn, Option.bind_some, Option.bind_eq_bind]
    rw [if_neg (by simp), if_neg (by simp), if_neg (by simp), if_neg (by simp),
      if_pos (by simp; omega)]
    exact putScalar_of_eq (by omega) (by omega) _

theorem utf8_cons (c : Char) (cs : List Char) :
    utf8 (c :: cs) = String.utf8EncodeChar c ++ utf8 cs := List.flatMap_cons

/-- A text is read again from its UTF-8 form. -/
theorem utf8?_utf8 (cs : List Char) : utf8? (utf8 cs) = some cs := by
  induction cs with
  | nil => rfl
  | cons c cs ih => rw [utf8_cons, utf8?_append, ih, Option.map_some]

/-! ## Writing what was read -/

theorem putScalar_eq_some_iff {least n : Nat} {rest : Option (List Char)} {cs : List Char} :
    putScalar least n rest = some cs ↔
      ∃ c cs', n = c.toNat ∧ least ≤ n ∧ rest = some cs' ∧ cs = c :: cs' := by
  constructor
  · intro h
    rw [putScalar] at h
    split at h
    · next hle =>
      simp only [scalar?] at h
      split at h
      · next hvalid =>
        cases rest with
        | none => cases h
        | some cs' =>
          refine ⟨Char.ofNat n, cs', ?_, hle, rfl, (Option.some.inj h).symm⟩
          rw [Char.ofNat, dif_pos hvalid]
          rfl
      · cases h
    · cases h
  · rintro ⟨c, cs', hn, hle, rfl, rfl⟩
    rw [putScalar_of_eq hn hle, Option.map_some]

theorem toNat_of_continuation? {b : UInt8} {n : Nat} (h : continuation? b = some n) :
    b.toNat = n + 0x80 ∧ n < 0x40 := by
  rw [continuation?] at h
  split at h
  · next hrange =>
    have hlow := UInt8.le_iff_toNat_le.mp hrange.1
    have hhigh := UInt8.lt_iff_toNat_lt.mp hrange.2
    have hn := Option.some.inj h
    simp only [UInt8.reduceToNat] at hlow hhigh
    omega
  · cases h

theorem ofNat_eq_of_toNat {b : UInt8} {n : Nat} (h : n = b.toNat) : UInt8.ofNat n = b := by
  rw [h, UInt8.ofNat_toNat]

/-- A readable text is the UTF-8 form of what is read. -/
theorem utf8_of_utf8? {bs : List UInt8} {cs : List Char} (h : utf8? bs = some cs) :
    utf8 cs = bs := by
  have hval (c : Char) : c.val.toNat = c.toNat := rfl
  fun_induction utf8? bs generalizing cs with
  | case1 =>
    cases h
    rfl
  | case2 b bs hb ih =>
    obtain ⟨c, cs, hc, -, hcs, rfl⟩ := putScalar_eq_some_iff.mp h
    have hb := UInt8.lt_iff_toNat_lt.mp hb
    simp only [UInt8.reduceToNat] at hb
    rw [utf8_cons, ih hcs, String.utf8EncodeChar, hval, ← hc]
    simp only [if_pos (show b.toNat ≤ 0x7f by omega), UInt8.ofNat_toNat]
    rfl
  | case4 b hb₁ hb₂ hb₃ c bs ih =>
    simp only [Option.bind_eq_bind, Option.bind_eq_some_iff] at h
    obtain ⟨m, hm, h⟩ := h
    obtain ⟨x, cs, hx, hleast, hcs, rfl⟩ := putScalar_eq_some_iff.mp h
    obtain ⟨hc, hm⟩ := toNat_of_continuation? hm
    simp only [UInt8.lt_iff_toNat_lt, UInt8.reduceToNat] at hb₁ hb₂ hb₃
    rw [utf8_cons, ih hcs]
    simp only [String.utf8EncodeChar, hval]
    rw [if_neg (by omega), if_pos (by omega), ofNat_eq_of_toNat (b := b) (by omega),
      ofNat_eq_of_toNat (b := c) (by omega)]
    rfl
  | case6 b hb₁ hb₂ hb₃ hb₄ c d bs ih =>
    simp only [Option.bind_eq_bind, Option.bind_eq_some_iff] at h
    obtain ⟨m, hm, n, hn, h⟩ := h
    obtain ⟨x, cs, hx, hleast, hcs, rfl⟩ := putScalar_eq_some_iff.mp h
    obtain ⟨hc, hm⟩ := toNat_of_continuation? hm
    obtain ⟨hd, hn⟩ := toNat_of_continuation? hn
    simp only [UInt8.lt_iff_toNat_lt, UInt8.reduceToNat] at hb₁ hb₂ hb₃ hb₄
    rw [utf8_cons, ih hcs]
    simp only [String.utf8EncodeChar, hval]
    rw [if_neg (by omega), if_neg (by omega), if_pos (by omega),
      ofNat_eq_of_toNat (b := b) (by omega), ofNat_eq_of_toNat (b := c) (by omega),
      ofNat_eq_of_toNat (b := d) (by omega)]
    rfl
  | case8 b hb₁ hb₂ hb₃ hb₄ hb₅ c d e bs ih =>
    simp only [Option.bind_eq_bind, Option.bind_eq_some_iff] at h
    obtain ⟨m, hm, n, hn, k, hk, h⟩ := h
    obtain ⟨x, cs, hx, hleast, hcs, rfl⟩ := putScalar_eq_some_iff.mp h
    obtain ⟨hc, hm⟩ := toNat_of_continuation? hm
    obtain ⟨hd, hn⟩ := toNat_of_continuation? hn
    obtain ⟨he, hk⟩ := toNat_of_continuation? hk
    have hx' : x.toNat < 0x110000 := by
      have hvalid : x.toNat < 0xd800 ∨ 0xdfff < x.toNat ∧ x.toNat < 0x110000 := x.valid
      omega
    simp only [UInt8.lt_iff_toNat_lt, UInt8.reduceToNat] at hb₁ hb₂ hb₃ hb₄ hb₅
    rw [utf8_cons, ih hcs]
    simp only [String.utf8EncodeChar, hval]
    rw [if_neg (by omega), if_neg (by omega), if_neg (by omega),
      ofNat_eq_of_toNat (b := b) (by omega), ofNat_eq_of_toNat (b := c) (by omega),
      ofNat_eq_of_toNat (b := d) (by omega), ofNat_eq_of_toNat (b := e) (by omega)]
    rfl
  | case3 | case5 | case7 | case9 | case10 => cases h

end SecureStream.Text
