import ExprEmit.Expr.Precedence

/-!
# Operators

The binary and unary operators with their symbols, precedences and kinds of result.
-/

namespace ExprEmit

/-! ### Binary operators -/

/-- A binary operator. -/
inductive BinaryOp where
  | multiply | divide | modulo | add | subtract | shl | shr | lt | le | gt | ge | eq | ne
  | bitAnd | bitXor | bitOr | and | or
  | assign | addAssign | subtractAssign | multiplyAssign | divideAssign
  | comma
deriving DecidableEq, Inhabited

namespace BinaryOp

/-- How the operator is written. -/
def symbol : BinaryOp → String
  | multiply => "*"
  | divide => "/"
  | modulo => "%"
  | add => "+"
  | subtract => "-"
  | shl => "<<"
  | shr => ">>"
  | lt => "<"
  | le => "<="
  | gt => ">"
  | ge => ">="
  | eq => "=="
  | ne => "!="
  | bitAnd => "&"
  | bitXor => "^"
  | bitOr => "|"
  | and => "&&"
  | or => "||"
  | assign => "="
  | addAssign => "+="
  | subtractAssign => "-="
  | multiplyAssign => "*="
  | divideAssign => "/="
  | comma => ","

/-- The precedence of an expression formed by the operator. -/
def precedence : BinaryOp → Precedence
  | multiply | divide | modulo => .multiplicative
  | add | subtract => .additive
  | shl | shr => .shift
  | lt | le | gt | ge => .relational
  | eq | ne => .equality
  | bitAnd => .bitAnd
  | bitXor => .bitXor
  | bitOr => .bitOr
  | and => .logicalAnd
  | or => .logicalOr
  | assign | addAssign | subtractAssign | multiplyAssign | divideAssign => .assignment
  | comma => .comma

/-- Whether a chain of the operator groups to the right. -/
def isRightAssociative (op : BinaryOp) : Bool := op.precedence == .assignment

/-- Whether the result is a `bool` whatever the operands are. -/
def yieldsBool : BinaryOp → Bool
  | lt | le | gt | ge | eq | ne | and | or => true
  | _ => false

/-- The precedence required of the left operand. -/
def leftRequired (op : BinaryOp) : Precedence :=
  if op.isRightAssociative then op.precedence.stronger else op.precedence

/-- The precedence required of the right operand. -/
def rightRequired (op : BinaryOp) : Precedence :=
  if op.isRightAssociative then op.precedence else op.precedence.stronger

/-- What is written between the operands. -/
def separator : BinaryOp → String
  | comma => ", "
  | op => " " ++ op.symbol ++ " "

instance : Keyed BinaryOp where
  all := [multiply, divide, modulo, add, subtract, shl, shr, lt, le, gt, ge, eq, ne, bitAnd, bitXor,
    bitOr, and, or, assign, addAssign, subtractAssign, multiplyAssign, divideAssign, comma]
  key
    | multiply => "multiply"
    | divide => "divide"
    | modulo => "modulo"
    | add => "add"
    | subtract => "subtract"
    | shl => "shl"
    | shr => "shr"
    | lt => "lt"
    | le => "le"
    | gt => "gt"
    | ge => "ge"
    | eq => "eq"
    | ne => "ne"
    | bitAnd => "bit_and"
    | bitXor => "bit_xor"
    | bitOr => "bit_or"
    | and => "and"
    | or => "or"
    | assign => "assign"
    | addAssign => "add_assign"
    | subtractAssign => "subtract_assign"
    | multiplyAssign => "multiply_assign"
    | divideAssign => "divide_assign"
    | comma => "comma"

end BinaryOp

/-! ### Unary operators -/

/-- A unary operator. -/
inductive UnaryOp where
  | not | negate | bitNot | addressOf | deref
  | preIncrement | preDecrement | postIncrement | postDecrement
deriving DecidableEq, Inhabited

namespace UnaryOp

/-- How the operator is written. -/
def symbol : UnaryOp → String
  | not => "!"
  | negate => "-"
  | bitNot => "~"
  | addressOf => "&"
  | deref => "*"
  | preIncrement | postIncrement => "++"
  | preDecrement | postDecrement => "--"

/-- Whether the operator stands behind its operand. -/
def followsOperand : UnaryOp → Bool
  | postIncrement | postDecrement => true
  | _ => false

/-- The precedence of an expression formed by the operator. -/
def precedence (op : UnaryOp) : Precedence :=
  if op.followsOperand then .trailing else .unary

instance : Keyed UnaryOp where
  all := [not, negate, bitNot, addressOf, deref, preIncrement, preDecrement, postIncrement,
    postDecrement]
  key
    | not => "not"
    | negate => "negate"
    | bitNot => "bit_not"
    | addressOf => "address_of"
    | deref => "deref"
    | preIncrement => "pre_increment"
    | preDecrement => "pre_decrement"
    | postIncrement => "post_increment"
    | postDecrement => "post_decrement"

end UnaryOp

end ExprEmit
