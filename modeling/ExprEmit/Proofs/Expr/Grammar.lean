import ExprEmit.Expr.Operator
import ExprEmit.Proofs.Token.Basic

/-!
# The grammar of C++ expressions

`Derives` is the grammar of expressions over the operators written here, production by production.
Levels count from the comma, 0, to operands and parentheses, 14: an expression of a level is also
one of every weaker level.  Nothing in this module depends on how an expression is written.

A `Tree` is what a text means: operators and their operands, without parentheses.
-/

namespace ExprEmit

/-- What the grammar reads: a token, or the `(type)` of a cast. -/
inductive Terminal where
  | token (t : Token)
  | castTo (target : String)
deriving DecidableEq, Inhabited

/-- The symbol `s`. -/
def Terminal.symbol (s : String) : Terminal := .token (.symbol s)

/-- How the parts of an expression are grouped. -/
inductive Tree where
  | leaf (token : Token)
  | member (base : Tree) (arrow : Bool) (field : Token)
  | call (function : Tree) (args : List Tree)
  | unary (op : UnaryOp) (operand : Tree)
  | binary (op : BinaryOp) (left right : Tree)
  | conditional (condition positive negative : Tree)
  | cast (target : String) (operand : Tree)
deriving Inhabited

/-! ### What symbols mean -/

/-- The symbols between two operands. -/
def binaryOps : List (String × BinaryOp) :=
  [("*", .multiply), ("/", .divide), ("%", .modulo), ("+", .add), ("-", .subtract), ("<<", .shl),
    (">>", .shr), ("<", .lt), ("<=", .le), (">", .gt), (">=", .ge), ("==", .eq), ("!=", .ne),
    ("&", .bitAnd), ("^", .bitXor), ("|", .bitOr), ("&&", .and), ("||", .or), ("=", .assign),
    ("+=", .addAssign), ("-=", .subtractAssign), ("*=", .multiplyAssign), ("/=", .divideAssign),
    (",", .comma)]

/-- The symbols in front of an operand. -/
def leadingOps : List (String × UnaryOp) :=
  [("!", .not), ("-", .negate), ("~", .bitNot), ("&", .addressOf), ("*", .deref),
    ("++", .preIncrement), ("--", .preDecrement)]

/-- The symbols behind an operand. -/
def trailingOps : List (String × UnaryOp) := [("++", .postIncrement), ("--", .postDecrement)]

/-- The symbols in front of a member, and whether they go through a pointer. -/
def memberMarks : List (String × Bool) := [(".", false), ("->", true)]

/-- The level of the expressions that a binary operator forms. -/
def BinaryOp.level : BinaryOp → Nat
  | .comma => 0
  | .assign | .addAssign | .subtractAssign | .multiplyAssign | .divideAssign => 1
  | .or => 2
  | .and => 3
  | .bitOr => 4
  | .bitXor => 5
  | .bitAnd => 6
  | .eq | .ne => 7
  | .lt | .le | .gt | .ge => 8
  | .shl | .shr => 9
  | .add | .subtract => 10
  | .multiply | .divide | .modulo => 11

/-- What an operator that forms expressions of level `n` takes on its left: assignments and the
conditional operator take a logical-or expression, the others what they form themselves. -/
def leftLevel (n : Nat) : Nat := if n = 1 then 2 else n

/-- What an operator that forms expressions of level `n` takes on its right: assignments and the
conditional operator take what they form themselves, the others what binds tighter. -/
def rightLevel (n : Nat) : Nat := if n = 1 then 1 else n + 1

/-! ### Productions -/

/-- What the grammar derives. -/
inductive Phrase where
  /-- An expression of a level. -/
  | expr (level : Nat) (tree : Tree)
  /-- The arguments of a call. -/
  | args (trees : List Tree)

/-- Whether a phrase has the terminals `ts`. -/
inductive Derives : Phrase → List Terminal → Prop where
  | leaf {t : Token} (ht : t.isOperand = true) : Derives (.expr 14 (.leaf t)) [.token t]
  | group {t : Tree} {ts : List Terminal} (h : Derives (.expr 0 t) ts) :
      Derives (.expr 14 t) ([.symbol "("] ++ ts ++ [.symbol ")"])
  | weaken {n : Nat} {t : Tree} {ts : List Terminal} (h : Derives (.expr (n + 1) t) ts) :
      Derives (.expr n t) ts
  | member {b : Tree} {ts : List Terminal} {s : String} {arrow : Bool} {field : Token}
      (hb : Derives (.expr 13 b) ts) (hs : memberMarks.lookup s = some arrow)
      (hf : field.kind = .word) :
      Derives (.expr 13 (.member b arrow field)) (ts ++ [.symbol s, .token field])
  | call {f : Tree} {xs : List Tree} {fs ts : List Terminal} (hf : Derives (.expr 13 f) fs)
      (hxs : Derives (.args xs) ts) :
      Derives (.expr 13 (.call f xs)) (fs ++ [.symbol "("] ++ ts ++ [.symbol ")"])
  | trailing {x : Tree} {ts : List Terminal} {s : String} {op : UnaryOp}
      (hx : Derives (.expr 13 x) ts) (hs : trailingOps.lookup s = some op) :
      Derives (.expr 13 (.unary op x)) (ts ++ [.symbol s])
  | leading {x : Tree} {ts : List Terminal} {s : String} {op : UnaryOp}
      (hs : leadingOps.lookup s = some op) (hx : Derives (.expr 12 x) ts) :
      Derives (.expr 12 (.unary op x)) ([.symbol s] ++ ts)
  | cast {x : Tree} {ts : List Terminal} (target : String) (hx : Derives (.expr 12 x) ts) :
      Derives (.expr 12 (.cast target x)) ([.castTo target] ++ ts)
  | binary {l r : Tree} {ls rs : List Terminal} {s : String} {op : BinaryOp}
      (hl : Derives (.expr (leftLevel op.level) l) ls) (hs : binaryOps.lookup s = some op)
      (hr : Derives (.expr (rightLevel op.level) r) rs) :
      Derives (.expr op.level (.binary op l r)) (ls ++ [.symbol s] ++ rs)
  | conditional {c p n : Tree} {cs ps ns : List Terminal}
      (hc : Derives (.expr (leftLevel 1) c) cs)
      (hp : Derives (.expr 0 p) ps) (hn : Derives (.expr (rightLevel 1) n) ns) :
      Derives (.expr 1 (.conditional c p n)) (cs ++ [.symbol "?"] ++ ps ++ [.symbol ":"] ++ ns)
  | noArgs : Derives (.args []) []
  | oneArg {x : Tree} {ts : List Terminal} (hx : Derives (.expr 1 x) ts) : Derives (.args [x]) ts
  | moreArgs {x y : Tree} {ys : List Tree} {ts us : List Terminal} (hx : Derives (.expr 1 x) ts)
      (hys : Derives (.args (y :: ys)) us) :
      Derives (.args (x :: y :: ys)) (ts ++ [.symbol ","] ++ us)

namespace Derives

variable {t : Tree} {ts : List Terminal}

/-- An expression of a level is one of every weaker level. -/
theorem mono {m n : Nat} (h : Derives (.expr n t) ts) (hmn : m ≤ n) : Derives (.expr m t) ts := by
  induction hmn with
  | refl => exact h
  | step _ ih => exact ih h.weaken

end Derives

end ExprEmit
