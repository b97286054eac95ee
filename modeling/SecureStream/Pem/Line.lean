/-!
# Lines of a PEM text

* `Line`: the lines of a text, the long ones in pieces;
* `Line.split`: the lines of some bytes;
* `Line.text`: a line without trailing blanks.
-/

namespace SecureStream.Pem

/-- A line up to and with its line feed, or a piece of one. -/
structure Line where
  octets : List UInt8

namespace Line

/-- The greatest length of a piece. -/
def limit : Nat := 254

/-- The lines of some bytes, where `room` more bytes fit into the first piece and `piece` is what it
holds already, in reverse. -/
def splitFrom (room : Nat) (piece : List UInt8) : List UInt8 → List Line
  | [] => if piece = [] then [] else [⟨piece.reverse⟩]
  | b :: bs =>
    match room with
    | 0 => ⟨piece.reverse⟩ ::
      (if b = 0x0a then ⟨[b]⟩ :: splitFrom limit [] bs else splitFrom (limit - 1) [b] bs)
    | room + 1 =>
      if b = 0x0a then ⟨(b :: piece).reverse⟩ :: splitFrom limit [] bs
      else splitFrom room (b :: piece) bs

/-- The lines of some bytes. -/
def split (bs : List UInt8) : List Line := splitFrom limit [] bs

/-- The piece fills its room and its line goes on. -/
def isPartial (l : Line) : Bool := l.octets.length = limit && l.octets.getLast? ≠ some 0x0a

/-- Control characters, spaces, and all that is not ASCII. -/
def isBlank (b : UInt8) : Bool := b ≤ 0x20 || 0x80 ≤ b

/-- Bytes without the blanks at their end. -/
def trimEnd (bs : List UInt8) : List UInt8 := (bs.reverse.dropWhile isBlank).reverse

/-- The line without the blanks at its end. -/
def text (l : Line) : List UInt8 := trimEnd l.octets

/-- The line without a byte order mark in front of it. -/
def withoutMark (l : Line) : Line :=
  match l.octets with
  | 0xef :: 0xbb :: 0xbf :: b :: bs => ⟨b :: bs⟩
  | _ => l

/-- What a line adds to the text of its block: nothing after a NUL. -/
def added (l : Line) : List UInt8 := (l.text ++ [0x0a]).takeWhile (· ≠ 0)

end Line

end SecureStream.Pem
