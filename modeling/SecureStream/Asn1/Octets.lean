import SecureStream.Asn1.Element

/-!
# Contents

The content octets of elements that are not made of parts, with the checks that each type makes.

* `gather`: the octets of a string that is given in pieces;
* `wellFormed`: the rule of each universal type on its octets;
* `octets`: a reader of one element's content;
* `anything`: a reader of any element;
* `Oid`, `objectId`: object identifiers.
-/

namespace SecureStream.Asn1

/-- The octets of a string in pieces, and the bytes behind it. Pieces may have pieces themselves, to
the given depth; their tags do not matter. -/
def gather (depth : Nat) (s : Scope) : Option (List UInt8 × List UInt8) := do
  let (more, s') ← s.more?
  if more then
    let (h, body) ← Header.read s'.left
    let (piece, rest) ←
      if h.constructed then
        match depth with
        | 0 => none
        | depth + 1 => gather depth (.enter h body)
      else
        h.length.map fun n => (body.take n, body.drop n)
    if rest.length < s.left.length then
      let (pieces, after) ← gather depth { s' with left := rest }
      return (piece ++ pieces, after)
    else
      none
  else
    let after ← s'.close
    return ([], after)
termination_by (depth, s.left.length)

/-- The bytes behind an element of indefinite length whose parts do not matter: behind the end mark
that closes as many elements as were opened. -/
def skipOpen (opened : Nat) (bs : List UInt8) : Option (List UInt8) :=
  match endMark? bs with
  | some rest =>
    if opened ≤ 1 then some rest
    else if rest.length < bs.length then skipOpen (opened - 1) rest
    else none
  | none => do
    let (h, body) ← Header.read bs
    let (opened, rest) := match h.length with
      | some n => (opened, body.drop n)
      | none => (opened + 1, body)
    if rest.length < bs.length then skipOpen opened rest else none
termination_by bs.length

/-- The bytes behind the element with the given header, its parts unread. -/
def skip (h : Header) (body : List UInt8) : Option (List UInt8) :=
  match h.length with
  | some n => some (body.drop n)
  | none => skipOpen 1 body

/-- An object identifier's octets end a number, and no number starts with a zero digit. -/
def oidOctets (bs : List UInt8) : Bool :=
  let rec starts : Bool → List UInt8 → Bool
    | first, [] => first
    | first, b :: bs => !(first && b = 0x80) && starts (b < 0x80) bs
  !bs.isEmpty && starts true bs

/-- An integer's octets are not empty, and the first is needed for the sign. -/
def integerOctets : List UInt8 → Bool
  | [] => false
  | [_] => true
  | 0x00 :: b :: _ => 0x80 ≤ b
  | 0xff :: b :: bs => b < 0x80 || (b :: bs).all (· = 0)
  | _ => true

/-- The rule that a universal type makes for its octets. -/
def wellFormed (type : Nat) (bs : List UInt8) : Bool :=
  match type with
  | 1 => bs.length = 1
  | 2 | 10 => integerOctets bs
  | 3 => match bs with
    | [] => false
    | b :: _ => b ≤ 7
  | 5 => bs.isEmpty
  | 6 => oidOctets bs
  | 23 => 13 ≤ bs.length
  | 24 => 15 ≤ bs.length
  | 28 => bs.length % 4 = 0
  | 30 => bs.length % 2 = 0
  | _ => true

/-- The types that must not be given in pieces. -/
def indivisible (type : Nat) : Bool := [1, 2, 5, 6, 10].contains type

/-- The types that stay encoded, since they are made of parts. -/
def composite (type : Nat) : Bool := [16, 17].contains type

/-- The content octets of the element with the given header, read as a universal type, and the bytes
behind it. A composite element has no content of its own. -/
def content (type : Nat) (h : Header) (body : List UInt8) : Option (List UInt8 × List UInt8) := do
  if composite type then
    if h.constructed then
      let rest ← skip h body
      return ([], rest)
    else
      none
  else if h.constructed then
    if indivisible type then none
    else
      let (bs, rest) ← gather 5 (.enter h body)
      if wellFormed type bs then return (bs, rest) else none
  else
    let n ← h.length
    if wellFormed type (body.take n) then return (body.take n, body.drop n) else none

/-- The content octets of an element with the given tag, read as a universal type. -/
def octets (tag : Tag) (type : Nat) : Reader (List UInt8) := fun bs =>
  match Header.read bs with
  | none => .malformed
  | some (h, body) =>
    if h.tag ≠ tag then .absent
    else
      match content type h body with
      | some (value, rest) => .found value rest
      | none => .malformed

/-- The content octets of a universal type. -/
def universal (type : Nat) : Reader (List UInt8) := octets (.universal type) type

/-- One of several universal types, with its number and content octets. -/
def oneOf (types : List Nat) : Reader (Nat × List UInt8) := fun bs =>
  match Header.read bs with
  | none => .malformed
  | some (h, body) =>
    if h.tag.space = .universal ∧ h.tag.number ∈ types then
      match content h.tag.number h body with
      | some (value, rest) => .found (h.tag.number, value) rest
      | none => .malformed
    else .absent

/-- Any element. One of the universal class obeys the rule of its type. -/
def anything : Reader Unit := fun bs =>
  match Header.read bs with
  | none => .malformed
  | some (h, body) =>
    let rest := if h.tag.space = .universal then
        (content h.tag.number h body).map (·.2)
      else
        skip h body
    match rest with
    | some rest => .found () rest
    | none => .malformed

/-- An object identifier, as the numbers on its path. -/
structure Oid where
  path : List Nat
  deriving DecidableEq

namespace Oid

/-- The numbers written in base 128 one after the other. -/
def numbers : Nat → List UInt8 → List Nat
  | _, [] => []
  | n, b :: bs =>
    if b < 128 then (n * 128 + b.toNat) :: numbers 0 bs
    else numbers (n * 128 + (b.toNat - 128)) bs

/-- The identifier of well-formed octets. The first number holds two steps of the path. -/
def ofOctets (bs : List UInt8) : Oid :=
  match numbers 0 bs with
  | [] => ⟨[]⟩
  | n :: ns => if n < 80 then ⟨n / 40 :: n % 40 :: ns⟩ else ⟨2 :: (n - 80) :: ns⟩

end Oid

/-- An object identifier. -/
def objectId : Reader Oid := fun bs => (universal 6 bs).refine fun bs => some (.ofOctets bs)

end SecureStream.Asn1
