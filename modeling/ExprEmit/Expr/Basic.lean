import ExprEmit.Element
import ExprEmit.Expr.Operator

/-!
# Expressions

The forms of expression.  `Expr.precedence` says how tightly each binds, and `Expr.children` numbers
the expressions directly inside.
-/

namespace ExprEmit

/-- A C++ expression. -/
inductive Expr where
  /-- A literal of a fixed type, already written out. -/
  | literal (type : SharedType) (value : String)
  /-- A string literal, without its quotes. -/
  | string (value : String)
  /-- A declared element by itself. -/
  | access (element : Element)
  /-- `base.field`, or `base->field`. -/
  | member (base : Expr) (field : Element) (arrow : Bool)
  | call (function : Element) (args : List Expr)
  | unary (op : UnaryOp) (operand : Expr)
  | binary (op : BinaryOp) (left right : Expr)
  /-- `condition ? positive : negative`. -/
  | conditional (condition positive negative : Expr)
  /-- `(target)operand`. -/
  | cast (target : SharedType) (operand : Expr)
deriving Inhabited

namespace Expr

/-- How tightly the expression binds. -/
def precedence : Expr → Precedence
  | literal _ _ | string _ | access _ => .primary
  | member _ _ _ | call _ _ => .trailing
  | unary op _ => op.precedence
  | binary op _ _ => op.precedence
  | conditional _ _ _ => .assignment
  | cast _ _ => .unary

/-- The expressions directly inside, from left to right. -/
def children : Expr → List Expr
  | literal _ _ | string _ | access _ => []
  | member base _ _ => [base]
  | call _ args => args
  | unary _ x => [x]
  | binary _ l r => [l, r]
  | conditional c p n => [c, p, n]
  | cast _ x => [x]

end Expr

end ExprEmit
