import SecureStream.Pem.Base64
import SecureStream.Pem.Line
import SecureStream.Tls.Failure

/-!
# Blocks of a PEM text

A text holds blocks between a begin line and an end line with one label; what stands between blocks
does not matter. A block may have a header, which a blank line ends.

* `Block`: a block with its label, header and decoded body;
* `Item`: a block, or the place where the text stops making sense;
* `items`: what a text holds, in order.
-/

namespace SecureStream.Pem

/-- A block. -/
structure Block where
  label : List UInt8
  header : List UInt8
  body : List UInt8
  deriving DecidableEq

/-- Something that a reader of a text meets. -/
inductive Item
  | block (block : Block)
  /-- A block has started and is malformed; reading stops here. -/
  | broken (errors : LibraryErrors)
  deriving DecidableEq

/-- Bytes of an ASCII text. -/
def ascii (s : String) : List UInt8 := s.toList.map fun c => .ofNat c.toNat

/-- The front of a begin line. -/
def beginMark : List UInt8 := ascii "-----BEGIN "

/-- The front of an end line. -/
def endMark : List UInt8 := ascii "-----END "

/-- The end of both lines. -/
def dashes : List UInt8 := ascii "-----"

/-- The label of a begin line, up to its first NUL. -/
def labelOf? (text : List UInt8) : Option (List UInt8) :=
  let inner := text.drop beginMark.length
  if beginMark.isPrefixOf text ∧ dashes.isSuffixOf inner then
    some ((inner.take (inner.length - dashes.length)).takeWhile (· ≠ 0))
  else
    none

/-- How far a block has been read. -/
inductive Progress
  /-- Lines that are the header if a blank line follows, else the body. -/
  | undecided
  /-- Lines of the header. -/
  | header
  /-- Lines of the body after a header. -/
  | body
  /-- A line of the body was short, so it must have been the last one. -/
  | ended
  deriving DecidableEq

/-- The state between two lines: outside of all blocks, or inside of one with its lines so far. -/
inductive State
  | outside (first : Bool)
  | inside (label : List UInt8) (progress : Progress) (wasPartial : Bool)
      (before after : List UInt8)

/-- Finish a block with the text of its body. -/
def finish (label header text : List UInt8) : Item :=
  match Base64.decode? text with
  | none => .broken .nonempty
  | some [] => .broken .empty
  | some body => .block ⟨label, header, body⟩

/-- The longest line of a body that follows a header. -/
def bodyWidth : Nat := 64

/-- One line: the next state, or an item that ends a block. -/
def step (s : State) (l : Line) : State ⊕ Item :=
  match s with
  | .outside first =>
    match labelOf? (if first then l.withoutMark else l).text with
    | some label => .inl (.inside label .undecided false [] [])
    | none => .inl (.outside false)
  | .inside label progress wasPartial before after =>
    let progress :=
      if progress = .undecided ∧ 0x3a ∈ l.octets then Progress.header else progress
    let next := fun p => State.inside label p l.isPartial
    if l.text = [] then
      if wasPartial then .inl (next progress before after)
      else if progress = .body ∨ progress = .ended then .inr (.broken .nonempty)
      else .inl (next .body before after)
    else if endMark.isPrefixOf l.text then
      if l.text = endMark ++ label ++ dashes then
        match progress with
        | .undecided => .inr (finish label [] before)
        | _ => .inr (finish label before after)
      else .inr (.broken .nonempty)
    else
      match progress with
      | .undecided | .header => .inl (next progress (before ++ l.added) after)
      | .ended => .inr (.broken .nonempty)
      | .body =>
        if bodyWidth < l.text.length then .inr (.broken .empty)
        else
          let progress := if l.text.length < bodyWidth then Progress.ended else Progress.body
          .inl (next progress before (after ++ l.added))

/-- What the lines hold from a state on. -/
def itemsFrom : State → List Line → List Item
  | .outside _, [] => []
  | .inside .., [] => [.broken .nonempty]
  | s, l :: ls =>
    match step s l with
    | .inl s => itemsFrom s ls
    | .inr (.block b) => .block b :: itemsFrom (.outside true) ls
    | .inr (.broken errors) => [.broken errors]

/-- What a text holds, in order. -/
def items (text : List UInt8) : List Item := itemsFrom (.outside true) (Line.split text)

end SecureStream.Pem
