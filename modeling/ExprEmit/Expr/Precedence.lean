import ExprEmit.Keyed

/-!
# Precedence

How tightly each form of expression binds.  It decides where parentheses are written and nothing
else.
-/

namespace ExprEmit

/-- A binding strength, weakest first. -/
inductive Precedence where
  | comma
  /-- Assignments and the conditional operator. -/
  | assignment
  | logicalOr | logicalAnd | bitOr | bitXor | bitAnd | equality | relational | shift
  | additive | multiplicative
  /-- Operators in front of their operand, and casts. -/
  | unary
  /-- Calls, member access and operators behind their operand. -/
  | trailing
  /-- Names and literals. -/
  | primary
deriving DecidableEq, Inhabited

namespace Precedence

/-- The position of a precedence, from the weakest. -/
def rank : Precedence → Nat
  | comma => 0
  | assignment => 1
  | logicalOr => 2
  | logicalAnd => 3
  | bitOr => 4
  | bitXor => 5
  | bitAnd => 6
  | equality => 7
  | relational => 8
  | shift => 9
  | additive => 10
  | multiplicative => 11
  | unary => 12
  | trailing => 13
  | primary => 14

theorem rank_le (p : Precedence) : p.rank ≤ primary.rank := by
  cases p <;> decide

/-- The next stronger precedence; `primary` is its own. -/
def stronger : Precedence → Precedence
  | comma => assignment
  | assignment => logicalOr
  | logicalOr => logicalAnd
  | logicalAnd => bitOr
  | bitOr => bitXor
  | bitXor => bitAnd
  | bitAnd => equality
  | equality => relational
  | relational => shift
  | shift => additive
  | additive => multiplicative
  | multiplicative => unary
  | unary => trailing
  | trailing => primary
  | primary => primary

/-- Whether an expression of this precedence needs parentheses where `required` is expected. -/
def needsParens (own required : Precedence) : Bool := own.rank < required.rank

theorem needsParens_eq_false_iff {own required : Precedence} :
    own.needsParens required = false ↔ required.rank ≤ own.rank := by
  simp [needsParens]

instance : Keyed Precedence where
  all := [comma, assignment, logicalOr, logicalAnd, bitOr, bitXor, bitAnd, equality, relational,
    shift, additive, multiplicative, unary, trailing, primary]
  key
    | comma => "Comma"
    | assignment => "Assignment"
    | logicalOr => "LogicalOr"
    | logicalAnd => "LogicalAnd"
    | bitOr => "BitOr"
    | bitXor => "BitXor"
    | bitAnd => "BitAnd"
    | equality => "Equality"
    | relational => "Relational"
    | shift => "Shift"
    | additive => "Additive"
    | multiplicative => "Multiplicative"
    | unary => "Unary"
    | trailing => "Postfix"
    | primary => "Primary"

end Precedence

end ExprEmit
