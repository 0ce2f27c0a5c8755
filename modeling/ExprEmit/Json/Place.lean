/-!
# Places in a text

A place is counted in lines, from 1, and bytes of the line.  `Place.ofOffset` finds the place in front
of which a number of bytes stand; `Place.span` finds the byte that a line and a column, both counted
from 1, point at.
-/

namespace ExprEmit

/-- A line, from 1, and how many of its bytes come before the place. -/
structure Place where
  line : Nat
  column : Nat
deriving DecidableEq, Inhabited

namespace Place

/-- The byte that ends a line. -/
def lineBreak : UInt8 := 10

/-- The place after moving over `bytes`. -/
def after (p : Place) : List UInt8 → Place
  | [] => p
  | b :: rest => if b = lineBreak then after ⟨p.line + 1, 0⟩ rest else after ⟨p.line, p.column + 1⟩ rest

/-- The place in front of which `offset` bytes stand. -/
def ofOffset (bytes : List UInt8) (offset : Nat) : Place :=
  after ⟨1, 0⟩ (bytes.take offset)

/-- The number of bytes in the first `n` lines, line breaks included. -/
def linesSize : (n : Nat) → List UInt8 → Nat
  | 0, _ => 0
  | _, [] => 0
  | n + 1, b :: rest => 1 + if b = lineBreak then linesSize n rest else linesSize (n + 1) rest

/-- The byte at a line and a column, both from 1, from its start to its end; it is cut to the text.
There is no line 0. -/
def span (bytes : List UInt8) (line column : Nat) : Option (Nat × Nat) :=
  if line = 0 then none
  else
    let start := min (linesSize (line - 1) bytes + (column - 1)) bytes.length
    some (start, min (start + 1) bytes.length)

end Place

end ExprEmit
