/-!
# Network addresses

Internet addresses and their text.

* `IpAddress`: a version 4 or version 6 address;
* `IpAddress.ofBytes?`, `IpAddress.toBytes`: the network form of 4 or 16 bytes;
* `IpAddress.text`: dotted quad, or the recommended text of version 6, in which the longest run of
  zero groups is left out, the first one if there are several, and never a single group;
* `SocketAddress`: an address with a port.
-/

namespace SecureStream

/-- A version 4 address, as its four octets. -/
structure Ipv4 where
  a : UInt8
  b : UInt8
  c : UInt8
  d : UInt8
  deriving DecidableEq

/-- A version 6 address, as its eight groups. -/
structure Ipv6 where
  groups : List UInt16
  length_groups : groups.length = 8
  deriving DecidableEq

/-- An internet address. -/
inductive IpAddress
  | v4 (address : Ipv4)
  | v6 (address : Ipv6)
  deriving DecidableEq

namespace Ipv4

/-- The dotted quad. -/
def chars (x : Ipv4) : List Char :=
  ['.'].intercalate ([x.a, x.b, x.c, x.d].map fun o => Nat.toDigits 10 o.toNat)

/-- The network form. -/
def toBytes (x : Ipv4) : List UInt8 := [x.a, x.b, x.c, x.d]

end Ipv4

namespace Ipv6

/-- The lower-case hexadecimal digits of a group, without leading zeros. -/
def groupChars (g : UInt16) : List Char := Nat.toDigits 16 g.toNat

/-- Groups separated by colons. -/
def joinGroups (gs : List UInt16) : List Char := [':'].intercalate (gs.map groupChars)

/-- The number of zero groups at the head of a list. -/
def zerosAhead (gs : List UInt16) : Nat := (gs.takeWhile (· = 0)).length

/-- Start and length of the longest run of zero groups, the first one of several. -/
def longestZeros : List UInt16 → Nat × Nat
  | [] => (0, 0)
  | g :: gs =>
    let here := zerosAhead (g :: gs)
    let later := longestZeros gs
    if later.2 ≤ here then (0, here) else (later.1 + 1, later.2)

/-- The version 4 address that the address stands for, if its first five groups are zero and the
sixth is `ffff`. -/
def mapped? (x : Ipv6) : Option Ipv4 :=
  match x.groups with
  | [0, 0, 0, 0, 0, 0xffff, g, h] =>
    some ⟨(g >>> 8).toUInt8, g.toUInt8, (h >>> 8).toUInt8, h.toUInt8⟩
  | _ => none

/-- The text of the groups, the longest run of at least two zero groups left out. -/
def groupsText (gs : List UInt16) : List Char :=
  let (start, length) := longestZeros gs
  if 1 < length then
    joinGroups (gs.take start) ++ [':', ':'] ++ joinGroups (gs.drop (start + length))
  else
    joinGroups gs

/-- The text of an address. -/
def chars (x : Ipv6) : List Char :=
  match x.mapped? with
  | some y => "::ffff:".toList ++ y.chars
  | none => groupsText x.groups

/-- The network form. -/
def toBytes (x : Ipv6) : List UInt8 :=
  x.groups.flatMap fun (g : UInt16) => [(g >>> 8).toUInt8, g.toUInt8]

/-- The groups of a network form of an even number of bytes. -/
def pairUp : List UInt8 → List UInt16
  | a :: b :: rest => (a.toUInt16 <<< 8 ||| b.toUInt16) :: pairUp rest
  | _ => []

theorem length_pairUp : ∀ bs : List UInt8, (pairUp bs).length = bs.length / 2
  | [] => rfl
  | [_] => by simp [pairUp]
  | _ :: _ :: rest => by simp [pairUp, length_pairUp rest]; omega

end Ipv6

namespace IpAddress

/-- The address of a network form. -/
def ofBytes? (bs : List UInt8) : Option IpAddress :=
  match bs with
  | [a, b, c, d] => some (v4 ⟨a, b, c, d⟩)
  | _ =>
    if h : bs.length = 16 then
      some (v6 ⟨Ipv6.pairUp bs, by rw [Ipv6.length_pairUp, h]⟩)
    else
      none

/-- The network form of an address. -/
def toBytes : IpAddress → List UInt8
  | v4 x => x.toBytes
  | v6 x => x.toBytes

/-- The text of an address, character by character. -/
def chars : IpAddress → List Char
  | v4 x => x.chars
  | v6 x => x.chars

/-- The text of an address. -/
def text (x : IpAddress) : String := String.ofList x.chars

end IpAddress

/-- An address with a port. -/
structure SocketAddress where
  ip : IpAddress
  port : UInt16
  deriving DecidableEq

/-- The text of an address with a port; a version 6 address stands in brackets. -/
def SocketAddress.text (x : SocketAddress) : String :=
  match x.ip with
  | .v4 _ => x.ip.text ++ ":" ++ toString x.port
  | .v6 _ => "[" ++ x.ip.text ++ "]:" ++ toString x.port

end SecureStream
