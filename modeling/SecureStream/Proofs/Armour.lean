import Mathlib.Data.List.TakeWhile
import SecureStream.Pem.Certificates

/-!
# What a PEM text holds

A text is a sequence of lines. Some of them stand between blocks and do not matter, and the others
are blocks, up to one that is malformed. This is said here of the lines alone, and is what reading
the text line by line comes to.

* `Line.Begins`, `Line.Ends`: the lines around a block;
* `Content`, `Encloses`: what the lines of a block say, and lines that start with a block;
* `Scan`: the blocks that some lines hold, and whether one that is malformed follows;
* `reading`, `Closes`: a block as it is read, from any place in it;
* `content_iff_reading`, `encloses_iff_closes`: what lines say is what they are read as;
* `Scan.exists_scan`, `Scan.unique`: any lines hold one thing;
* **`Scan.itemsFrom_eq`**: reading some lines meets what they hold.
-/

namespace SecureStream.Pem

/-! ## Lines -/

namespace Line

/-- No byte of a text is lost in its lines. -/
theorem flatMap_octets_splitFrom (room : Nat) (piece bs : List UInt8) :
    (splitFrom room piece bs).flatMap octets = piece.reverse ++ bs := by
  induction bs generalizing room piece with
  | nil =>
    rw [splitFrom]
    split
    · next h => simp [h]
    · simp
  | cons b bs ih =>
    cases room with
    | zero =>
      rw [splitFrom]
      split <;> simp [ih]
    | succ room =>
      rw [splitFrom]
      split <;> simp [ih]

theorem flatMap_octets_split (bs : List UInt8) : (split bs).flatMap octets = bs :=
  flatMap_octets_splitFrom limit [] bs

/-- The line begins a block with a label, which ends at the first NUL. A byte order mark may stand
in front of the first line that is looked at. -/
def Begins (l : Line) (first : Bool) (label : List UInt8) : Prop :=
  ∃ name, (if first then l.withoutMark else l).text = beginMark ++ name ++ dashes ∧
    label = name.takeWhile (· ≠ 0)

/-- The line ends a block with a label. -/
def Ends (l : Line) (label : List UInt8) : Prop := l.text = endMark ++ label ++ dashes

/-- There is no colon among the blanks at the end of a line. -/
theorem colon_mem_octets_iff {l : Line} : 0x3a ∈ l.octets ↔ 0x3a ∈ l.text := by
  have hsplit := List.takeWhile_append_dropWhile (p := isBlank) (l := l.octets.reverse)
  rw [text, trimEnd, List.mem_reverse, ← List.mem_reverse, ← hsplit, List.mem_append, hsplit]
  refine ⟨fun h => h.resolve_left fun hblank => ?_, .inr⟩
  exact absurd (List.mem_takeWhile_imp hblank) (by decide)

theorem colon_notMem_of_blank {l : Line} (h : l.text = []) : 0x3a ∉ l.octets := by
  rw [colon_mem_octets_iff, h]
  exact List.not_mem_nil

theorem Ends.colon_mem_iff {l : Line} {label : List UInt8} (h : l.Ends label) :
    0x3a ∈ l.octets ↔ 0x3a ∈ label := by
  have hend : 0x3a ∉ endMark := by decide
  have hdashes : 0x3a ∉ dashes := by decide
  rw [colon_mem_octets_iff, h, List.mem_append, List.mem_append]
  simp only [hend, hdashes, false_or, or_false]

theorem Ends.endMark_prefix {l : Line} {label : List UInt8} (h : l.Ends label) :
    endMark <+: l.text := by
  rw [h, List.append_assoc]
  exact List.prefix_append _ _

theorem text_ne_nil_of_endMark {l : Line} (h : endMark <+: l.text) : l.text ≠ [] := by
  intro hnil
  rw [hnil, List.prefix_nil] at h
  exact absurd h (by decide)

end Line

open Line

theorem labelOf?_eq_some_iff {text label : List UInt8} :
    labelOf? text = some label ↔
      ∃ name, text = beginMark ++ name ++ dashes ∧ label = name.takeWhile (· ≠ 0) := by
  constructor
  · intro h
    simp only [labelOf?] at h
    split at h
    · next hmarks =>
      obtain ⟨inner, rfl⟩ := List.isPrefixOf_iff_prefix.mp hmarks.1
      rw [List.drop_left] at hmarks h
      obtain ⟨name, rfl⟩ := List.isSuffixOf_iff_suffix.mp hmarks.2
      rw [List.length_append, Nat.add_sub_cancel, List.take_left] at h
      exact ⟨name, (List.append_assoc ..).symm, (Option.some.inj h).symm⟩
    · exact nomatch h
  · rintro ⟨name, rfl, rfl⟩
    have hdrop : (beginMark ++ name ++ dashes).drop beginMark.length = name ++ dashes := by
      rw [List.append_assoc, List.drop_left]
    have hmarks : beginMark.isPrefixOf (beginMark ++ name ++ dashes) = true ∧
        dashes.isSuffixOf (name ++ dashes) = true := by
      rw [List.isPrefixOf_iff_prefix, List.isSuffixOf_iff_suffix, List.append_assoc]
      exact ⟨List.prefix_append _ _, List.suffix_append _ _⟩
    rw [labelOf?, hdrop, if_pos hmarks, List.length_append, Nat.add_sub_cancel, List.take_left]

/-! ## Blocks -/

/-- The lines of a block that count: a blank one that is only the rest of a longer line does not. -/
def solid : Bool → List Line → List Line
  | _, [] => []
  | wasPartial, l :: ls =>
    if l.text = [] ∧ wasPartial = true then solid l.isPartial ls else l :: solid l.isPartial ls

/-- The lines of a body behind a header: none is blank or too wide, and all but the last are full.
-/
structure IsBody (ls : List Line) : Prop where
  occupied : ∀ l ∈ ls, l.text ≠ []
  narrow : ∀ l ∈ ls, l.text.length ≤ bodyWidth
  full : ∀ l ∈ ls.dropLast, l.text.length = bodyWidth

/-- What the lines of a block say: a body without a colon anywhere, or a header and a body with a
blank line between them. -/
inductive Content (label : List UInt8) : List Line → (header text : List UInt8) → Prop
  | plain {ls} : 0x3a ∉ label → (∀ l ∈ ls, l.text ≠ [] ∧ 0x3a ∉ l.octets) →
    Content label ls [] (ls.flatMap added)
  | headed {hs blank bs} : (∀ l ∈ hs, l.text ≠ []) → blank.text = [] → IsBody bs →
    Content label (hs ++ blank :: bs) (hs.flatMap added) (bs.flatMap added)

/-- Some lines begin with those of a well-formed block, up to and with its end line, and go on with
the rest. The body is not empty. -/
inductive Encloses (label : List UInt8) : List Line → Block → List Line → Prop
  | intro {content close rest header text body} : (∀ l ∈ content, ¬ endMark <+: l.text) →
    close.Ends label → Content label (solid false content) header text →
    Base64.decode? text = some body → body ≠ [] →
    Encloses label (content ++ close :: rest) ⟨label, header, body⟩ rest

/-- What some lines hold: blocks in order, and whether that is all. If not, then a malformed block
follows. -/
inductive Scan : Bool → List Line → List Block → Bool → Prop
  | done {first} : Scan first [] [] true
  | stray {first l ls bs intact} : (∀ label, ¬ l.Begins first label) →
    Scan false ls bs intact → Scan first (l :: ls) bs intact
  | block {first l ls label b rest bs intact} : l.Begins first label →
    Encloses label ls b rest → Scan true rest bs intact → Scan first (l :: ls) (b :: bs) intact
  | malformed {first l ls label} : l.Begins first label →
    (∀ b rest, ¬ Encloses label ls b rest) → Scan first (l :: ls) [] false

/-! ## Reading a block -/

/-- A line of a block that counts and does not end it: how far the block has been read with it, or
nothing if the line has no place there. -/
def absorb (progress : Progress) (before after : List UInt8) (l : Line) :
    Option (Progress × List UInt8 × List UInt8) :=
  let progress :=
    if progress = .undecided ∧ 0x3a ∈ l.octets then Progress.header else progress
  if l.text = [] then
    if progress = .body ∨ progress = .ended then none else some (.body, before, after)
  else
    match progress with
    | .undecided | .header => some (progress, before ++ l.added, after)
    | .ended => none
    | .body =>
      if bodyWidth < l.text.length then none
      else some (if l.text.length < bodyWidth then .ended else .body, before, after ++ l.added)

/-- The header and the text of a block that ends here. -/
def settled (label : List UInt8) (progress : Progress) (before after : List UInt8) :
    List UInt8 × List UInt8 :=
  if progress = .undecided ∧ 0x3a ∉ label then ([], before) else (before, after)

section

variable {label before after header text : List UInt8} {progress : Progress} {wasPartial : Bool}
  {l : Line} {ls : List Line}

theorem step_of_idle (h : l.text = []) :
    step (.inside label progress true before after) l =
      .inl (.inside label progress l.isPartial before after) := by
  have hcolon : ¬ (progress = .undecided ∧ 0x3a ∈ l.octets) :=
    fun hcolon => colon_notMem_of_blank h hcolon.2
  simp only [step, if_neg hcolon, if_pos h]
  rfl

theorem step_of_ends (h : l.Ends label) :
    step (.inside label progress wasPartial before after) l =
      .inr (finish label (settled label progress before after).1
        (settled label progress before after).2) := by
  have hend : endMark.isPrefixOf l.text = true := List.isPrefixOf_iff_prefix.mpr h.endMark_prefix
  have htext : l.text = endMark ++ label ++ dashes := h
  simp only [step, if_neg (text_ne_nil_of_endMark h.endMark_prefix), if_pos hend, if_pos htext,
    h.colon_mem_iff, settled]
  cases progress with
  | undecided => by_cases hcolon : 0x3a ∈ label <;> simp [hcolon]
  | _ => simp

theorem step_of_endMark (h : endMark <+: l.text) (hends : ¬ l.Ends label) :
    step (.inside label progress wasPartial before after) l = .inr (.broken .nonempty) := by
  have hend : endMark.isPrefixOf l.text = true := List.isPrefixOf_iff_prefix.mpr h
  have htext : ¬ l.text = endMark ++ label ++ dashes := hends
  simp only [step, if_neg (text_ne_nil_of_endMark h), if_pos hend, if_neg htext]

theorem step_of_counts (hcounts : ¬ (l.text = [] ∧ wasPartial = true)) (h : ¬ endMark <+: l.text) :
    step (.inside label progress wasPartial before after) l =
      match absorb progress before after l with
      | some (p, front, back) => .inl (.inside label p l.isPartial front back)
      | none =>
        .inr (.broken (if progress = .body ∧ l.text ≠ [] then .empty else .nonempty)) := by
  have hend : ¬ endMark.isPrefixOf l.text = true := mt List.isPrefixOf_iff_prefix.mp h
  simp only [step, absorb, if_neg hend]
  cases progress <;> split_ifs <;> simp_all

/-- The header and the text of a block with some more lines that count, or nothing if one of them
has no place there. -/
def reading (label : List UInt8) :
    Progress → (before after : List UInt8) → List Line → Option (List UInt8 × List UInt8)
  | progress, before, after, [] => some (settled label progress before after)
  | progress, before, after, l :: ls =>
    (absorb progress before after l).bind fun (progress, before, after) =>
      reading label progress before after ls

theorem isBody_cons_iff :
    IsBody (l :: ls) ↔ l.text ≠ [] ∧ l.text.length ≤ bodyWidth ∧
      (l.text.length < bodyWidth → ls = []) ∧ IsBody ls := by
  constructor
  · intro h
    obtain ⟨hl, hls⟩ := List.forall_mem_cons.mp h.occupied
    obtain ⟨hnarrow, hnarrows⟩ := List.forall_mem_cons.mp h.narrow
    have hfull := h.full
    cases ls with
    | nil => exact ⟨hl, hnarrow, fun _ => rfl, hls, hnarrows, List.forall_mem_nil _⟩
    | cons l' ls =>
      rw [List.dropLast_cons_cons, List.forall_mem_cons] at hfull
      exact ⟨hl, hnarrow, fun hlt => absurd hfull.1 hlt.ne, hls, hnarrows, hfull.2⟩
  · rintro ⟨hl, hnarrow, hshort, hls⟩
    refine ⟨List.forall_mem_cons.mpr ⟨hl, hls.occupied⟩,
      List.forall_mem_cons.mpr ⟨hnarrow, hls.narrow⟩, ?_⟩
    cases ls with
    | nil => exact List.forall_mem_nil _
    | cons l' ls =>
      have hfull : l.text.length = bodyWidth :=
        hnarrow.eq_of_not_lt fun hlt => List.cons_ne_nil l' ls (hshort hlt)
      rw [List.dropLast_cons_cons]
      exact List.forall_mem_cons.mpr ⟨hfull, hls.full⟩

theorem isBody_nil : IsBody [] :=
  ⟨List.forall_mem_nil _, List.forall_mem_nil _, List.forall_mem_nil _⟩

/-- Behind a short line of a body there is none. -/
theorem reading_ended_eq_some_iff :
    reading label .ended before after ls = some (header, text) ↔
      ls = [] ∧ header = before ∧ text = after := by
  cases ls with
  | nil => simp [reading, settled, eq_comm]
  | cons l ls => simp [reading, absorb]

theorem reading_body_eq_some_iff :
    reading label .body before after ls = some (header, text) ↔
      IsBody ls ∧ header = before ∧ text = after ++ ls.flatMap added := by
  induction ls generalizing after with
  | nil => simp [reading, settled, isBody_nil, eq_comm]
  | cons l ls ih =>
    rw [isBody_cons_iff, reading]
    by_cases hblank : l.text = []
    · simp [absorb, hblank]
    by_cases hwide : bodyWidth < l.text.length
    · simp [absorb, hblank, hwide, hwide.not_ge]
    have hnarrow := Nat.le_of_not_lt hwide
    by_cases hshort : l.text.length < bodyWidth
    · simp only [absorb, hblank, hwide, hshort, Option.bind_some, reading_ended_eq_some_iff,
        reduceCtorEq, false_and, if_false, if_true]
      constructor
      · rintro ⟨rfl, rfl, rfl⟩
        simp [hnarrow, hblank, isBody_nil]
      · rintro ⟨⟨-, -, hlast, -⟩, rfl, rfl⟩
        simp [hlast trivial]
    · simp [absorb, hblank, hwide, hshort, hnarrow, ih]

/-- Up to a blank line a block has its header. -/
theorem reading_of_blank {hs bs : List Line} {blank : Line}
    (hprogress : progress = .undecided ∨ progress = .header) (hhs : ∀ l ∈ hs, l.text ≠ [])
    (hblank : blank.text = []) :
    reading label progress before after (hs ++ blank :: bs) =
      reading label .body (before ++ hs.flatMap added) after bs := by
  induction hs generalizing progress before with
  | nil =>
    have hcolon := colon_notMem_of_blank hblank
    rcases hprogress with rfl | rfl <;> simp [reading, absorb, hblank, hcolon]
  | cons l hs ih =>
    obtain ⟨hl, hhs⟩ := List.forall_mem_cons.mp hhs
    rw [List.cons_append, reading, List.flatMap_cons, ← List.append_assoc]
    rcases hprogress with rfl | rfl
    · by_cases hcolon : 0x3a ∈ l.octets
      · simp [absorb, hcolon, hl, ih (.inr rfl) hhs]
      · simp [absorb, hcolon, hl, ih (.inl rfl) hhs]
    · simp [absorb, hl, ih (.inr rfl) hhs]

/-- Without a blank line a block has only a header if there is a colon in it, and else only a
body. -/
theorem reading_of_occupied (hls : ∀ l ∈ ls, l.text ≠ []) :
    reading label .header before after ls = some (before ++ ls.flatMap added, after) ∧
    reading label .undecided before after ls =
      if 0x3a ∉ label ∧ ∀ l ∈ ls, 0x3a ∉ l.octets then some ([], before ++ ls.flatMap added)
      else some (before ++ ls.flatMap added, after) := by
  induction ls generalizing before with
  | nil => by_cases hlabel : 0x3a ∈ label <;> simp [reading, settled, hlabel]
  | cons l ls ih =>
    obtain ⟨hl, hls⟩ := List.forall_mem_cons.mp hls
    obtain ⟨hheader, hundecided⟩ := @ih (before ++ l.added) hls
    rw [List.flatMap_cons, ← List.append_assoc]
    by_cases hcolon : 0x3a ∈ l.octets
    · simp [reading, absorb, hl, hcolon, hheader]
    · simp [reading, absorb, hl, hcolon, hheader, hundecided]

/-- What lines say is what they are read as. -/
theorem content_iff_reading (htext : text ≠ []) :
    Content label ls header text ↔
      reading label .undecided [] [] ls = some (header, text) := by
  constructor
  · rintro (⟨hlabel, hls⟩ | ⟨hhs, hblank, hbs⟩)
    · rw [(reading_of_occupied fun l hl => (hls l hl).1).2,
        if_pos ⟨hlabel, fun l hl => (hls l hl).2⟩, List.nil_append]
    · rw [reading_of_blank (.inl rfl) hhs hblank, reading_body_eq_some_iff]
      exact ⟨hbs, rfl, rfl⟩
  · intro h
    cases hfind : ls.find? (·.text = []) with
    | none =>
      have hls : ∀ l ∈ ls, l.text ≠ [] := fun l hl => by
        simpa using List.find?_eq_none.mp hfind l hl
      rw [(reading_of_occupied hls).2] at h
      split at h
      · next hplain =>
        cases h
        exact .plain hplain.1 fun l hl => ⟨hls l hl, hplain.2 l hl⟩
      · cases h
        exact absurd rfl htext
    | some blank =>
      obtain ⟨hblank, hs, bs, rfl, hhs⟩ := List.find?_eq_some_iff_append.mp hfind
      simp only [decide_eq_true_eq, Bool.not_eq_true', decide_eq_false_iff_not] at hblank hhs
      rw [reading_of_blank (.inl rfl) hhs hblank, reading_body_eq_some_iff] at h
      obtain ⟨hbs, rfl, rfl⟩ := h
      exact .headed hhs hblank hbs

/-- A block that has been read so far ends well: in front of the rest stands its end line, and what
has been read makes a block. -/
def Closes (label : List UInt8) (progress : Progress) (wasPartial : Bool)
    (before after : List UInt8) (ls : List Line) (b : Block) (rest : List Line) : Prop :=
  ∃ content close header text, ls = content ++ close :: rest ∧
    (∀ l ∈ content, ¬ endMark <+: l.text) ∧ close.Ends label ∧
    reading label progress before after (solid wasPartial content) = some (header, text) ∧
    finish label header text = .block b

theorem Closes.cons_idle {b : Block} {rest : List Line} (h : l.text = [])
    (hls : Closes label progress l.isPartial before after ls b rest) :
    Closes label progress true before after (l :: ls) b rest := by
  obtain ⟨content, close, header, text, rfl, hcontent, hclose, hreading, hfinish⟩ := hls
  have hl : ¬ endMark <+: l.text := fun hend => text_ne_nil_of_endMark hend h
  refine ⟨l :: content, close, header, text, rfl, List.forall_mem_cons.mpr ⟨hl, hcontent⟩, hclose,
    ?_, hfinish⟩
  rw [solid, if_pos ⟨h, rfl⟩]
  exact hreading

theorem Closes.cons_counts {b : Block} {rest : List Line} {p : Progress} {front back : List UInt8}
    (hcounts : ¬ (l.text = [] ∧ wasPartial = true)) (h : ¬ endMark <+: l.text)
    (habsorb : absorb progress before after l = some (p, front, back))
    (hls : Closes label p l.isPartial front back ls b rest) :
    Closes label progress wasPartial before after (l :: ls) b rest := by
  obtain ⟨content, close, header, text, rfl, hcontent, hclose, hreading, hfinish⟩ := hls
  refine ⟨l :: content, close, header, text, rfl, List.forall_mem_cons.mpr ⟨h, hcontent⟩, hclose,
    ?_, hfinish⟩
  rw [solid, if_neg hcounts, reading, habsorb]
  exact hreading

/-- A block that ends well is read as such. -/
theorem Closes.itemsFrom_eq {b : Block} {rest : List Line}
    (h : Closes label progress wasPartial before after ls b rest) :
    itemsFrom (.inside label progress wasPartial before after) ls =
      .block b :: itemsFrom (.outside true) rest := by
  obtain ⟨content, close, header, text, rfl, hcontent, hclose, hreading, hfinish⟩ := h
  induction content generalizing progress wasPartial before after with
  | nil =>
    have hsettled : settled label progress before after = (header, text) :=
      Option.some.inj hreading
    simp only [List.nil_append, itemsFrom, step_of_ends hclose, hsettled, hfinish]
  | cons l content ih =>
    obtain ⟨hl, hcontent⟩ := List.forall_mem_cons.mp hcontent
    rw [List.cons_append]
    by_cases hidle : l.text = [] ∧ wasPartial = true
    · obtain ⟨hblank, rfl⟩ := hidle
      rw [solid, if_pos ⟨hblank, rfl⟩] at hreading
      simp only [itemsFrom, step_of_idle hblank]
      exact ih hcontent hreading
    · rw [solid, if_neg hidle, reading, Option.bind_eq_some_iff] at hreading
      obtain ⟨⟨p, front, back⟩, habsorb, hreading⟩ := hreading
      simp only [itemsFrom, step_of_counts hidle hl, habsorb]
      exact ih hcontent hreading

/-- A block that does not end well is malformed. -/
theorem closes_or_broken :
    (∃ b rest, Closes label progress wasPartial before after ls b rest) ∨
      ∃ errors, itemsFrom (.inside label progress wasPartial before after) ls =
        [.broken errors] := by
  induction ls generalizing progress wasPartial before after with
  | nil => exact .inr ⟨.nonempty, rfl⟩
  | cons l ls ih =>
    by_cases hend : endMark <+: l.text
    · by_cases hends : l.Ends label
      · simp only [itemsFrom, step_of_ends hends]
        cases hfinish : finish label (settled label progress before after).1
          (settled label progress before after).2 with
        | block b =>
          exact .inl ⟨b, ls, [], l, _, _, rfl, List.forall_mem_nil _, hends, rfl, hfinish⟩
        | broken errors => exact .inr ⟨errors, rfl⟩
      · refine .inr ⟨.nonempty, ?_⟩
        simp only [itemsFrom, step_of_endMark hend hends]
    by_cases hidle : l.text = [] ∧ wasPartial = true
    · obtain ⟨hblank, rfl⟩ := hidle
      simp only [itemsFrom, step_of_idle hblank]
      exact ih.imp (fun ⟨b, rest, h⟩ => ⟨b, rest, h.cons_idle hblank⟩) id
    cases habsorb : absorb progress before after l with
    | none =>
      simp only [itemsFrom, step_of_counts hidle hend, habsorb]
      exact .inr ⟨_, rfl⟩
    | some reading =>
      obtain ⟨p, front, back⟩ := reading
      simp only [itemsFrom, step_of_counts hidle hend, habsorb]
      exact ih.imp (fun ⟨b, rest, h⟩ => ⟨b, rest, h.cons_counts hidle hend habsorb⟩) id

theorem finish_eq_block_iff {b : Block} :
    finish label header text = .block b ↔
      ∃ body, Base64.decode? text = some body ∧ body ≠ [] ∧ b = ⟨label, header, body⟩ := by
  unfold finish
  cases Base64.decode? text with
  | none => simp
  | some body => cases body <;> simp [eq_comm]

/-- The lines of a block end well from its start on if it is well-formed. -/
theorem encloses_iff_closes {b : Block} {rest : List Line} :
    Encloses label ls b rest ↔ Closes label .undecided false [] [] ls b rest := by
  have htext {text body : List UInt8} (h : Base64.decode? text = some body) (hbody : body ≠ []) :
      text ≠ [] := by
    rintro rfl
    cases h
    exact hbody rfl
  constructor
  · rintro ⟨hcontent, hclose, hsays, hdecode, hbody⟩
    exact ⟨_, _, _, _, rfl, hcontent, hclose,
      (content_iff_reading (htext hdecode hbody)).mp hsays,
      finish_eq_block_iff.mpr ⟨_, hdecode, hbody, rfl⟩⟩
  · rintro ⟨content, close, header, text, rfl, hcontent, hclose, hreading, hfinish⟩
    obtain ⟨body, hdecode, hbody, rfl⟩ := finish_eq_block_iff.mp hfinish
    exact .intro hcontent hclose ((content_iff_reading (htext hdecode hbody)).mpr hreading)
      hdecode hbody

/-- Something is left of the lines of a block only behind its end line. -/
theorem Encloses.length_lt {b : Block} {rest : List Line} (h : Encloses label ls b rest) :
    rest.length < ls.length := by
  cases h with
  | intro => simp only [List.length_append, List.length_cons]; omega

end

/-! ## Reading a text -/

theorem itemsFrom_of_begins {first : Bool} {l : Line} {ls : List Line} {label : List UInt8}
    (h : l.Begins first label) :
    itemsFrom (.outside first) (l :: ls) = itemsFrom (.inside label .undecided false [] []) ls := by
  simp only [itemsFrom, step, labelOf?_eq_some_iff.mpr h]

theorem itemsFrom_of_stray {first : Bool} {l : Line} {ls : List Line}
    (h : ∀ label, ¬ l.Begins first label) :
    itemsFrom (.outside first) (l :: ls) = itemsFrom (.outside false) ls := by
  have hnone : labelOf? (if first then l.withoutMark else l).text = none :=
    Option.eq_none_iff_forall_ne_some.mpr fun label hlabel =>
      h label (labelOf?_eq_some_iff.mp hlabel)
  simp only [itemsFrom, step, hnone]

namespace Scan

variable {first intact : Bool} {ls : List Line} {bs : List Block}

/-- **Reading some lines meets the blocks that they hold, and an error only if one of them is
malformed.** -/
theorem itemsFrom_eq (h : Scan first ls bs intact) : ∃ errors,
    itemsFrom (.outside first) ls =
      bs.map .block ++ if intact then [] else [.broken errors] := by
  induction h with
  | done => exact ⟨.empty, rfl⟩
  | stray hstray _ ih => rwa [itemsFrom_of_stray hstray]
  | block hbegins hencloses _ ih =>
    rw [itemsFrom_of_begins hbegins, (encloses_iff_closes.mp hencloses).itemsFrom_eq]
    obtain ⟨errors, ih⟩ := ih
    exact ⟨errors, by rw [ih, List.map_cons, List.cons_append]⟩
  | malformed hbegins hencloses =>
    rw [itemsFrom_of_begins hbegins]
    obtain ⟨b, rest, hcloses⟩ | hbroken := closes_or_broken
    · exact absurd (encloses_iff_closes.mpr hcloses) (hencloses b rest)
    · exact hbroken

/-- There is something to say of any lines. -/
theorem exists_scan (first : Bool) (ls : List Line) : ∃ bs intact, Scan first ls bs intact := by
  induction hn : ls.length using Nat.strong_induction_on generalizing first ls with
  | _ n ih =>
    cases ls with
    | nil => exact ⟨[], true, .done⟩
    | cons l ls =>
      have hls : ls.length < n := hn ▸ Nat.lt_succ_self ls.length
      by_cases hbegins : ∃ label, l.Begins first label
      · obtain ⟨label, hbegins⟩ := hbegins
        by_cases hencloses : ∃ b rest, Encloses label ls b rest
        · obtain ⟨b, rest, hencloses⟩ := hencloses
          obtain ⟨bs, intact, h⟩ := ih _ (hencloses.length_lt.trans hls) true rest rfl
          exact ⟨b :: bs, intact, .block hbegins hencloses h⟩
        · exact ⟨[], false, .malformed hbegins fun b rest h => hencloses ⟨b, rest, h⟩⟩
      · obtain ⟨bs, intact, h⟩ := ih _ hls false ls rfl
        exact ⟨bs, intact, .stray (fun label h => hbegins ⟨label, h⟩) h⟩

/-- There is only one thing to say of lines. -/
theorem unique {bs' : List Block} {intact' : Bool} (h : Scan first ls bs intact)
    (h' : Scan first ls bs' intact') : bs = bs' ∧ intact = intact' := by
  obtain ⟨errors, hitems⟩ := h.itemsFrom_eq
  obtain ⟨errors', hitems'⟩ := h'.itemsFrom_eq
  rw [hitems] at hitems'
  clear h h' hitems
  induction bs generalizing bs' with
  | nil => cases bs' <;> cases intact <;> cases intact' <;> simp_all
  | cons b bs ih =>
    cases bs' with
    | nil => cases intact' <;> simp at hitems'
    | cons b' bs' =>
      simp only [List.map_cons, List.cons_append, List.cons.injEq, Item.block.injEq] at hitems'
      obtain ⟨rfl, hitems'⟩ := hitems'
      obtain ⟨rfl, rfl⟩ := ih hitems'
      exact ⟨rfl, rfl⟩

end Scan

end SecureStream.Pem
