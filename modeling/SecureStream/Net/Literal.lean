import SecureStream.Net.Address

/-!
# Address literals

Reading an internet address from its text, with nothing around it.

* `IpAddress.ofText?`: the address that a whole text spells, if it spells one.

A version 4 literal is four decimal numbers up to 255 without leading zeros. A version 6 literal is
eight groups of one to four hexadecimal digits; a double colon stands for one or more zero groups,
and the last two groups may be written as a version 4 literal. Each reader takes what it can from
the front of a text and returns the rest.
-/

namespace SecureStream

namespace Literal

/-- The value of a hexadecimal digit. -/
def hexDigit? (c : Char) : Option Nat :=
  if '0' ≤ c ∧ c ≤ '9' then some (c.toNat - 48)
  else if 'a' ≤ c ∧ c ≤ 'f' then some (c.toNat - 87)
  else if 'A' ≤ c ∧ c ≤ 'F' then some (c.toNat - 55)
  else none

/-- The value of a digit in a base of at most sixteen. -/
def digit? (base : Nat) (c : Char) : Option Nat := (hexDigit? c).filter (· < base)

/-- The digits at the front of a text, and the rest. -/
def digits (base : Nat) : List Char → List Nat × List Char
  | [] => ([], [])
  | c :: cs =>
    match digit? base c with
    | some d =>
      let (ds, rest) := digits base cs
      (d :: ds, rest)
    | none => ([], c :: cs)

/-- The number that digits spell, the most significant first. -/
def value (base : Nat) (ds : List Nat) : Nat := ds.foldl (fun n d => n * base + d) 0

/-- A decimal number up to 255 without leading zeros. -/
def octet? (cs : List Char) : Option (UInt8 × List Char) :=
  match digits 10 cs with
  | ([], _) => none
  | (0 :: _ :: _, _) => none
  | (ds, rest) =>
    if ds.length ≤ 3 ∧ value 10 ds ≤ 255 then some (UInt8.ofNat (value 10 ds), rest) else none

/-- One given character. -/
def char? (c : Char) : List Char → Option (List Char)
  | [] => none
  | x :: xs => if x = c then some xs else none

/-- A dotted quad. -/
def ipv4? (cs : List Char) : Option (Ipv4 × List Char) := do
  let (a, cs) ← octet? cs
  let (b, cs) ← octet? (← char? '.' cs)
  let (c, cs) ← octet? (← char? '.' cs)
  let (d, cs) ← octet? (← char? '.' cs)
  return (⟨a, b, c, d⟩, cs)

/-- One to four hexadecimal digits. -/
def group? (cs : List Char) : Option (UInt16 × List Char) :=
  match digits 16 cs with
  | ([], _) => none
  | (ds, rest) => if ds.length ≤ 4 then some (UInt16.ofNat (value 16 ds), rest) else none

/-- What stands before the group number `i`: nothing before the first, else a colon. -/
def separator? (i : Nat) (cs : List Char) : Option (List Char) :=
  if i = 0 then some cs else char? ':' cs

/-- A version 4 address as two groups. -/
def quadGroups (x : Ipv4) : List UInt16 :=
  [x.a.toUInt16 <<< 8 ||| x.b.toUInt16, x.c.toUInt16 <<< 8 ||| x.d.toUInt16]

/-- As many groups as there are, at most `room`, the first of them being number `i`. The result
says whether the last two were written as a version 4 literal. -/
def groups (i : Nat) : Nat → List Char → List UInt16 × Bool × List Char
  | 0, cs => ([], false, cs)
  | room + 1, cs =>
    let quad := if room = 0 then none else (separator? i cs).bind ipv4?
    match quad with
    | some (x, rest) => (quadGroups x, true, rest)
    | none =>
      match (separator? i cs).bind group? with
      | some (g, rest) =>
        let (gs, quad, rest) := groups (i + 1) room rest
        (g :: gs, quad, rest)
      | none => ([], false, cs)

/-- Eight groups, or fewer with a double colon that stands for the missing ones. -/
def ipv6? (cs : List Char) : Option (List UInt16 × List Char) :=
  match groups 0 8 cs with
  | (head, quad, rest) =>
    if head.length = 8 then
      some (head, rest)
    else if quad then
      none
    else do
      let rest ← char? ':' (← char? ':' rest)
      let (tail, _, rest) := groups 0 (7 - head.length) rest
      return (head ++ List.replicate (8 - head.length - tail.length) 0 ++ tail, rest)

end Literal

open Literal

/-- The address that a whole text spells, if it spells one. -/
def IpAddress.ofChars? (cs : List Char) : Option IpAddress :=
  match ipv4? cs with
  | some (x, rest) => if rest = [] then some (v4 x) else none
  | none =>
    match ipv6? cs with
    | some (gs, []) => if h : gs.length = 8 then some (v6 ⟨gs, h⟩) else none
    | _ => none

/-- The address that a whole text spells, if it spells one. -/
def IpAddress.ofText? (text : String) : Option IpAddress := ofChars? text.toList

end SecureStream
