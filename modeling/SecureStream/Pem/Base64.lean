/-!
# Base 64

Bytes written with four characters of a 64-letter alphabet for every three.

* `letter`, `letterValue?`: the alphabet;
* `encode`: the characters of some bytes;
* `decode?`: the bytes of a text, white space ignored; a dash ends the text.
-/

namespace SecureStream.Base64

/-- The letter of a value below 64. -/
def letter (n : Nat) : UInt8 :=
  if n < 26 then .ofNat (n + 65)
  else if n < 52 then .ofNat (n + 71)
  else if n < 62 then .ofNat (n - 4)
  else if n = 62 then 0x2b
  else 0x2f

/-- The value of a letter. -/
def letterValue? (b : UInt8) : Option Nat :=
  if 0x41 ≤ b ∧ b ≤ 0x5a then some (b.toNat - 65)
  else if 0x61 ≤ b ∧ b ≤ 0x7a then some (b.toNat - 71)
  else if 0x30 ≤ b ∧ b ≤ 0x39 then some (b.toNat + 4)
  else if b = 0x2b then some 62
  else if b = 0x2f then some 63
  else none

/-- The character that fills up the last four. -/
def padding : UInt8 := 0x3d

/-- The character that ends a text. -/
def dash : UInt8 := 0x2d

/-- Space, tab and the line ends. -/
def isSpace (b : UInt8) : Bool := b = 0x20 || b = 0x09 || b = 0x0a || b = 0x0d

/-- The bytes of letter values, of which there are a multiple of four. -/
def unpack : List Nat → List UInt8
  | a :: b :: c :: d :: rest =>
    let n := ((a * 64 + b) * 64 + c) * 64 + d
    .ofNat (n / 65536) :: .ofNat (n / 256 % 256) :: .ofNat (n % 256) :: unpack rest
  | _ => []

/-- The letter values of bytes. The last group may be short. -/
def pack : List UInt8 → List Nat
  | a :: b :: c :: rest =>
    let n := (a.toNat * 256 + b.toNat) * 256 + c.toNat
    n / 262144 :: n / 4096 % 64 :: n / 64 % 64 :: n % 64 :: pack rest
  | [a, b] =>
    let n := (a.toNat * 256 + b.toNat) * 256
    [n / 262144, n / 4096 % 64, n / 64 % 64]
  | [a] =>
    let n := a.toNat * 65536
    [n / 262144, n / 4096 % 64]
  | [] => []

/-- The characters of some bytes. -/
def encode (bs : List UInt8) : List UInt8 :=
  (pack bs).map letter ++ List.replicate ((3 - bs.length % 3) % 3) padding

/-- The bytes of a text: groups of four characters up to the end or a dash, of which the last two
may be padding. Padding counts as zero and takes its bytes away again. -/
def decode? (text : List UInt8) : Option (List UInt8) := do
  let text := (text.takeWhile (· ≠ dash)).filter (!isSpace ·)
  let letters := text.takeWhile (· ≠ padding)
  let fill := text.drop letters.length
  let values ← letters.mapM letterValue?
  if fill.all (· = padding) ∧ fill.length ≤ 2 ∧ text.length % 4 = 0 then
    let bytes := unpack (values ++ List.replicate fill.length 0)
    return bytes.take (bytes.length - fill.length)
  else
    none

end SecureStream.Base64
