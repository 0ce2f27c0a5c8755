import ExprEmit.Decimal.Layout
import ExprEmit.Expr.Basic

/-!
# Literals

The literals of the built-in types, written out.  Each makes a type object of its own; `fresh` is its
number.
-/

namespace ExprEmit.Expr

/-- A literal of type `t` with the text `value`. -/
def literalOf (t : Ty) (fresh : Nat) (value : String) : Expr := .literal ⟨fresh, t⟩ value

/-- An `int`. -/
def int (n : Int) (fresh : Nat) : Expr := literalOf (.ofPrimitive .int) fresh (toString n)

/-- An `unsigned int`, as in `42U`. -/
def unsigned (n : Nat) (fresh : Nat) : Expr :=
  literalOf (.ofPrimitive .unsignedInt) fresh (toString n ++ "U")

/-- A truth value. -/
def bool (b : Bool) (fresh : Nat) : Expr :=
  literalOf (.ofPrimitive .bool) fresh (if b then "true" else "false")

/-- A character between apostrophes, as it is. -/
def char (c : Char) (fresh : Nat) : Expr :=
  literalOf (.ofPrimitive .char) fresh ("'" ++ String.singleton c ++ "'")

/-- A number in source text has a point in place from `0.0001` to below `1e16`, and of two equally
near decimals it takes the greater. -/
def floatLayout : Decimal.Layout := ⟨-4, 15, false, .up⟩

/-- The text of a `double`; what is no finite number goes by its macro. -/
def floatText : Decimal.Double → String
  | .nan => "NAN"
  | .infinite negative => if negative then "-INFINITY" else "INFINITY"
  | .finite negative m q => floatLayout.text negative m q

/-- A `double`, from its bits. -/
def float (bits : UInt64) (fresh : Nat) : Expr :=
  literalOf (.ofPrimitive .double) fresh (floatText (.ofBits bits))

/-- The null pointer, a `void *`. -/
def nullPtr (fresh : Nat) : Expr := literalOf (Ty.ofPrimitive .void).ptr fresh "nullptr"

end ExprEmit.Expr
