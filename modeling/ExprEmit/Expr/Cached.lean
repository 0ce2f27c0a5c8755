import ExprEmit.Expr.Dependencies

/-!
# Expressions with their caches

An expression together with the types found for it so far.  Building a larger expression from such
parts keeps what is known of them.
-/

namespace ExprEmit

/-- An expression and its type cache. -/
structure CachedExpr where
  expr : Expr
  cache : TypeCache
deriving Inhabited

namespace CachedExpr

/-- An expression of which no type has been asked yet. -/
def ofExpr (e : Expr) : CachedExpr := ⟨e, .empty⟩

/-! ### Building larger expressions -/

/-- An expression built from `parts`, whose caches are kept. -/
def ofParts (e : Expr) (parts : List CachedExpr) : CachedExpr := ⟨e, .node none (parts.map cache)⟩

/-- The access to a field of `base`. -/
def member (base : CachedExpr) (field : Element) (arrow : Bool) : CachedExpr :=
  ofParts (.member base.expr field arrow) [base]

/-- The call of `function`. -/
def call (function : Element) (args : List CachedExpr) : CachedExpr :=
  ofParts (.call function (args.map expr)) args

/-- A unary expression. -/
def unary (op : UnaryOp) (x : CachedExpr) : CachedExpr := ofParts (.unary op x.expr) [x]

/-- A binary expression. -/
def binary (op : BinaryOp) (l r : CachedExpr) : CachedExpr := ofParts (.binary op l.expr r.expr) [l, r]

/-- A conditional expression. -/
def conditional (c p n : CachedExpr) : CachedExpr :=
  ofParts (.conditional c.expr p.expr n.expr) [c, p, n]

/-- A cast. -/
def cast (target : SharedType) (x : CachedExpr) : CachedExpr := ofParts (.cast target x.expr) [x]

/-! ### Parts of an expression -/

/-- The parts directly inside, with their caches. -/
def children (e : CachedExpr) : List CachedExpr :=
  e.expr.children.mapIdx fun i x => ⟨x, e.cache.child i⟩

/-- The part reached by a path of child numbers. -/
def at? (e : CachedExpr) : List Nat → Option CachedExpr
  | [] => some e
  | i :: path =>
    match e.expr.children[i]? with
    | some x => (⟨x, e.cache.child i⟩ : CachedExpr).at? path
    | none => none

/-- The expression with the cache `c` for the part reached by a path. -/
def withCacheAt (e : CachedExpr) (path : List Nat) (c : TypeCache) : CachedExpr :=
  { e with cache := e.cache.withPath path c }

/-! ### Questions and sweeps -/

/-- Finds the type object of the expression. -/
def resolve (e : CachedExpr) (fresh : Nat) : Resolved := e.expr.resolve e.cache fresh

/-- Registers what the expression needs, from the registry state `s`. -/
def require {σ : Type} (e : CachedExpr) (k : Registry σ) (s : σ) (fresh : Nat) :
    Reply (Sweep σ) :=
  e.expr.require k ⟨s, e.cache, fresh⟩

end CachedExpr

end ExprEmit
