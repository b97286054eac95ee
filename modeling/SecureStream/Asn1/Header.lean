/-!
# Element headers

The identifier and length octets of a BER element, read leniently: a length may be indefinite or
longer than it need be.

* `Header`, `Header.read`: tag and length of the element at the front of some bytes, and its body;
* `endMark?`: the two zero octets that end an element of indefinite length;
* `Tag`: the universal tag numbers that matter here.
-/

namespace SecureStream.Asn1

/-- The class of a tag. -/
inductive TagClass
  | universal
  | application
  | context
  | privateUse
  deriving DecidableEq

/-- A tag: its class and number. -/
structure Tag where
  space : TagClass
  number : Nat
  deriving DecidableEq

namespace Tag

/-- A tag of the universal class. -/
def universal (number : Nat) : Tag := ⟨.universal, number⟩

/-- A tag whose meaning depends on the context. -/
def context (number : Nat) : Tag := ⟨.context, number⟩

/-- The tag of a sequence. -/
def sequence : Tag := universal 16

/-- The tag of a set. -/
def set : Tag := universal 17

end Tag

/-- Tag and length of an element. -/
structure Header where
  tag : Tag
  constructed : Bool
  /-- The number of body octets; indefinite if missing. -/
  length : Option Nat
  deriving DecidableEq

/-- The number written in base 128, most significant digit first, the last digit alone without the
high bit, and the rest. Numbers beyond 31 bits are refused. -/
def base128? (n : Nat) : List UInt8 → Option (Nat × List UInt8)
  | [] => none
  | b :: bs =>
    if b < 128 then some (n * 128 + b.toNat, bs)
    else if n * 128 + (b.toNat - 128) ≤ 0xffffff then base128? (n * 128 + (b.toNat - 128)) bs
    else none

/-- The number that octets spell, most significant first. -/
def bigEndian (bs : List UInt8) : Nat := bs.foldl (fun n b => n * 256 + b.toNat) 0

/-- The length of a body and the rest. A length of more than one octet must be followed by at least
one more octet; its leading zero octets do not count. -/
def length? : List UInt8 → Option (Option Nat × List UInt8)
  | [] => none
  | b :: bs =>
    if b = 0x80 then
      some (none, bs)
    else if b < 0x80 then
      some (some b.toNat, bs)
    else
      let n := b.toNat - 0x80
      let octets := (bs.take n).dropWhile (· = 0)
      if n + 1 ≤ bs.length ∧ octets.length ≤ 8 ∧ bigEndian octets < 0x8000000000000000 then
        some (some (bigEndian octets), bs.drop n)
      else
        none

/-- The class that the two high bits of an identifier octet stand for. -/
def TagClass.ofOctet (b : UInt8) : TagClass :=
  if b < 0x40 then universal
  else if b < 0x80 then application
  else if b < 0xc0 then context
  else privateUse

/-- The header at the front of some bytes, and the bytes behind it. A definite length must fit into
those bytes, and only a constructed element may have an indefinite one. -/
def Header.read : List UInt8 → Option (Header × List UInt8)
  | [] => none
  | b :: bs => do
    let low := b.toNat % 32
    let (number, bs) ← if low = 31 then base128? 0 bs else some (low, bs)
    let (length, bs) ← length? bs
    let constructed := b.toNat / 32 % 2 = 1
    match length with
    | some n => if bs.length < n then none else pure ()
    | none => if constructed then pure () else none
    return (⟨⟨.ofOctet b, number⟩, constructed, length⟩, bs)

/-- The bytes behind the mark that ends an element of indefinite length, if it stands in front. -/
def endMark? : List UInt8 → Option (List UInt8)
  | 0 :: 0 :: bs => some bs
  | _ => none

end SecureStream.Asn1
