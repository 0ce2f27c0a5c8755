import ExprEmit.Expr.Basic
import ExprEmit.Text.Alphanumeric
import ExprEmit.Type.Text

/-!
# The text of an expression

An expression is written from left to right in one sweep.  An operand is put into parentheses exactly
if it binds more weakly than its place requires.  An operator in front of its operand is followed by a
blank where the two would otherwise read as another operator, as in `- -x`.

`Expr.emit` offers the texts to a sink one after another and stops at the first refusal;
`Expr.pieces` lists them.
-/

namespace ExprEmit

/-- The characters that double into another operator. -/
def UnaryOp.doublesInto (op : UnaryOp) (c : Char) : Bool :=
  op.symbol.toList.getLast? == some c && (c == '-' || c == '+' || c == '&')

namespace Expr

/-- The character that the text of an expression starts with, where that may be a symbol. -/
def leadingChar? : Expr → Option Char
  | literal _ value => value.toList.head?.filter fun c => !Text.isAlphanumeric c
  | unary op x =>
    if op.followsOperand then
      if x.precedence.needsParens .trailing then some '(' else x.leadingChar?
    else op.symbol.toList.head?
  | member base _ _ =>
    if base.precedence.needsParens .trailing then some '(' else base.leadingChar?
  | _ => none

/-- Whether a blank has to separate `op` from the operand `x` behind it. -/
def needsBlank (op : UnaryOp) (x : Expr) : Bool := x.leadingChar?.any op.doublesInto

/-- How a member access is written. -/
def memberMark (arrow : Bool) : String := if arrow then "->" else "."

/-! ### Writing into a sink -/

/-- The step `s`, between parentheses if `b` holds. -/
def parenthesize {σ : Type} (k : Sink σ) (b : Bool) (s : Step σ) : Step σ :=
  if b then Step.all [k.offer "(", s, k.offer ")"] else s

mutual

/-- Writes an expression into a sink. -/
def emit {σ : Type} (k : Sink σ) : Expr → Step σ
  | literal _ value => k.offer value
  | string value => Step.all [k.offer "\"", k.offer value, k.offer "\""]
  | access x => k.offer x.name.identifier
  | member base field arrow => Step.all [
      parenthesize k (base.precedence.needsParens .trailing) (base.emit k),
      k.offer (memberMark arrow),
      k.offer field.name.identifier]
  | call f args => Step.all [
      k.offer f.name.identifier,
      k.offer "(",
      Step.all ((emitArgs k args).intersperse (k.offer ", ")),
      k.offer ")"]
  | unary op x =>
    let operand := parenthesize k (x.precedence.needsParens op.precedence) (x.emit k)
    if op.followsOperand then Step.all [operand, k.offer op.symbol]
    else Step.all [k.offer op.symbol, Step.when (needsBlank op x) (k.offer " "), operand]
  | binary op l r => Step.all [
      parenthesize k (l.precedence.needsParens op.leftRequired) (l.emit k),
      k.offer op.separator,
      parenthesize k (r.precedence.needsParens op.rightRequired) (r.emit k)]
  | conditional c p n => Step.all [
      parenthesize k (c.precedence.needsParens .logicalOr) (c.emit k),
      k.offer " ? ",
      parenthesize k (p.precedence.needsParens .comma) (p.emit k),
      k.offer " : ",
      parenthesize k (n.precedence.needsParens .assignment) (n.emit k)]
  | cast t x => Step.all [
      k.offer "(",
      t.type.emit k,
      k.offer ")",
      parenthesize k (x.precedence.needsParens .unary) (x.emit k)]

/-- The steps that write the arguments of a call. -/
def emitArgs {σ : Type} (k : Sink σ) : List Expr → List (Step σ)
  | [] => []
  | x :: xs => parenthesize k (x.precedence.needsParens .assignment) (x.emit k) :: emitArgs k xs

end

/-! ### Listing the texts -/

/-- The texts `ps`, between parentheses if `b` holds. -/
def parenthesizePieces (b : Bool) (ps : List String) : List String :=
  if b then ["("] ++ ps ++ [")"] else ps

mutual

/-- The texts that write an expression. -/
def pieces : Expr → List String
  | literal _ value => [value]
  | string value => ["\"", value, "\""]
  | access x => [x.name.identifier]
  | member base field arrow =>
    parenthesizePieces (base.precedence.needsParens .trailing) base.pieces ++
      [memberMark arrow, field.name.identifier]
  | call f args =>
    [f.name.identifier, "("] ++ [", "].intercalate (argPieces args) ++ [")"]
  | unary op x =>
    let operand := parenthesizePieces (x.precedence.needsParens op.precedence) x.pieces
    if op.followsOperand then operand ++ [op.symbol]
    else [op.symbol] ++ (if needsBlank op x then [" "] else []) ++ operand
  | binary op l r =>
    parenthesizePieces (l.precedence.needsParens op.leftRequired) l.pieces ++
      [op.separator] ++
      parenthesizePieces (r.precedence.needsParens op.rightRequired) r.pieces
  | conditional c p n =>
    parenthesizePieces (c.precedence.needsParens .logicalOr) c.pieces ++ [" ? "] ++
      parenthesizePieces (p.precedence.needsParens .comma) p.pieces ++ [" : "] ++
      parenthesizePieces (n.precedence.needsParens .assignment) n.pieces
  | cast t x =>
    ["("] ++ t.type.pieces ++ [")"] ++
      parenthesizePieces (x.precedence.needsParens .unary) x.pieces

/-- The texts of each argument of a call. -/
def argPieces : List Expr → List (List String)
  | [] => []
  | x :: xs => parenthesizePieces (x.precedence.needsParens .assignment) x.pieces :: argPieces xs

end

/-- The whole text of an expression. -/
def text (e : Expr) : String := String.join e.pieces

end Expr

end ExprEmit
