import Std.Data.HashMap
import Ebms.Text.Trim

/-! # Tables of characters

Properties of characters come in tables of two kinds.  A table of blocks gives
texts for runs of successive characters.  A table of bounds lists the codes at
which characters with and without a property change places. -/

set_option autoImplicit false

namespace Ebms.Text

/-- The entries of a block: one piece for each code from the first one on, with
spaces between them.  An empty piece stands for a character without entry. -/
def blockEntries (first : Nat) (pieces : String) : List (Nat × List Char) :=
  ((Text.pieces ' ' pieces).zipIdx first).filterMap fun (piece, code) =>
    if piece.isEmpty then none else some (code, piece.toList)

def blocksEntries (blocks : List (Nat × String)) : List (Nat × List Char) :=
  blocks.flatMap fun (first, pieces) => blockEntries first pieces

/-- The number of bounds in `bounds[low, high)` that do not exceed a code, plus
`low`, by bisection; `fuel` bounds the number of halvings. -/
def countBounds (bounds : Array Nat) (code : Nat) : Nat → Nat → Nat → Nat
  | 0, low, _ => low
  | fuel + 1, low, high =>
    if low < high then
      let middle := (low + high) / 2
      match bounds[middle]? with
      | some bound =>
        if bound ≤ code then countBounds bounds code fuel (middle + 1) high
        else countBounds bounds code fuel low middle
      | none => low
    else low

def boundsUpTo (bounds : Array Nat) (c : Char) : Nat :=
  countBounds bounds c.toNat 12 0 bounds.size

/-- Whether a character lies between the first and second bound, the third and
fourth, and so on. -/
def isWithin (bounds : Array Nat) (c : Char) : Bool := boundsUpTo bounds c % 2 == 1

end Ebms.Text
