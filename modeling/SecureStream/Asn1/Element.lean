import SecureStream.Asn1.Header

/-!
# Elements and their parts

Readers for BER elements. A reader takes one element from the front of some bytes; it may find
another tag than the one it looks for, which is no error where the element is optional.

* `Outcome`, `Reader`: the three results of looking for an element;
* `Scope`: the inside of a constructed element while its parts are read;
* `Scope.required`, `Scope.optional`, `Scope.last`, `Scope.close`: the parts of a sequence;
* `Scope.many`, `manyOf`: a sequence or set of any number of like parts;
* `explicit`: an element wrapped into another.
-/

namespace SecureStream.Asn1

/-- What a reader found. -/
inductive Outcome (α : Type)
  /-- The bytes are malformed. -/
  | malformed
  /-- The element in front has another tag. -/
  | absent
  /-- The element was read; the rest lies behind it. -/
  | found (value : α) (rest : List UInt8)

/-- A reader of one element. -/
abbrev Reader (α : Type) := List UInt8 → Outcome α

namespace Outcome

/-- The value and the rest, if the element was there. -/
def get? {α : Type} : Outcome α → Option (α × List UInt8)
  | found value rest => some (value, rest)
  | _ => none

/-- Change the value, or find it malformed after all. -/
def refine {α β : Type} (f : α → Option β) : Outcome α → Outcome β
  | malformed => malformed
  | absent => absent
  | found value rest =>
    match f value with
    | some value => found value rest
    | none => malformed

end Outcome

/-- Where the bytes of a constructed element end. -/
inductive Ending
  /-- After the bytes at hand; the given bytes lie behind. -/
  | definite (after : List UInt8)
  /-- At an end mark that is still to come. -/
  | marked
  /-- The end mark has been read. -/
  | passed

/-- The inside of a constructed element: the bytes still to be read, and how it ends. -/
structure Scope where
  left : List UInt8
  ending : Ending

namespace Scope

/-- The inside of the element with the given header. -/
def enter (h : Header) (body : List UInt8) : Scope :=
  match h.length with
  | some n => ⟨body.take n, .definite (body.drop n)⟩
  | none => ⟨body, .marked⟩

/-- There may be another part: bytes are left, and they do not start with the end mark. The end
mark is taken where it is due, and is malformed elsewhere. -/
def more? (s : Scope) : Option (Bool × Scope) :=
  match s.ending with
  | .passed => some (false, s)
  | .marked =>
    match s.left, endMark? s.left with
    | [], _ => some (false, s)
    | _, some rest => some (false, ⟨rest, .passed⟩)
    | _, none => some (true, s)
  | .definite _ =>
    match s.left, endMark? s.left with
    | [], _ => some (false, s)
    | _, some _ => none
    | _, none => some (true, s)

/-- The next part of a sequence, which must be there. -/
def required {α : Type} (read : Reader α) (s : Scope) : Option (α × Scope) := do
  let (more, s) ← s.more?
  if more then
    let (value, rest) ← (read s.left).get?
    return (value, { s with left := rest })
  else
    none

/-- The next part of a sequence, which may be missing. -/
def optional {α : Type} (read : Reader α) (s : Scope) : Option (Option α × Scope) := do
  let (more, s) ← s.more?
  if more then
    match read s.left with
    | .malformed => none
    | .absent => return (none, s)
    | .found value rest => return (some value, { s with left := rest })
  else
    return (none, s)

/-- The last part of a sequence. It may be missing only if nothing else stands in its place. -/
def last {α : Type} (read : Reader α) (s : Scope) : Option (Option α × Scope) := do
  let (more, s) ← s.more?
  if more then
    let (value, rest) ← (read s.left).get?
    return (some value, { s with left := rest })
  else
    return (none, s)

/-- The bytes behind the element, if all of its parts have been read. -/
def close (s : Scope) : Option (List UInt8) :=
  match s.ending with
  | .passed => some s.left
  | .marked => endMark? s.left
  | .definite after => if s.left = [] then some after else none

/-- Any number of like parts, up to the end of the element. -/
def many {α : Type} (read : Reader α) (s : Scope) : Option (List α × List UInt8) := do
  let (more, s') ← s.more?
  if more then
    let (value, rest) ← (read s'.left).get?
    if rest.length < s.left.length then
      let (values, after) ← many read { s' with left := rest }
      return (value :: values, after)
    else
      none
  else
    let after ← s'.close
    return ([], after)
termination_by s.left.length

end Scope

/-- The inside of a sequence, whose element has the given tag. A sequence must be constructed. -/
def sequence {α : Type} (tag : Tag) (parts : Scope → Option (α × Scope)) : Reader α := fun bs =>
  match Header.read bs with
  | none => .malformed
  | some (h, body) =>
    if h.tag ≠ tag then .absent
    else if h.constructed then
      match (parts (.enter h body)).bind fun (value, s) => s.close.map (value, ·) with
      | some (value, rest) => .found value rest
      | none => .malformed
    else .malformed

/-- A sequence or set, as its tag says, of any number of like parts. -/
def manyOf {α : Type} (tag : Tag) (read : Reader α) : Reader (List α) := fun bs =>
  match Header.read bs with
  | none => .malformed
  | some (h, body) =>
    if h.tag ≠ tag then .absent
    else
      match (Scope.enter h body).many read with
      | some (values, rest) => .found values rest
      | none => .malformed

/-- An element wrapped into another of the given tag. -/
def explicit {α : Type} (tag : Tag) (read : Reader α) : Reader α :=
  sequence tag fun s => do
    let (value, rest) ← (read s.left).get?
    return (value, { s with left := rest })

end SecureStream.Asn1
