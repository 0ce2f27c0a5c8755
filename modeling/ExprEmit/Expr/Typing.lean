import ExprEmit.Expr.TypeCache
import ExprEmit.Log

/-!
# The types of expressions

`Expr.type` is the static type of an expression, by recursion on it.  `Expr.resolve` finds the same
type as an object and remembers it: each expression is resolved at most once, and afterwards it always
answers with the same object.  Where an operator leaves the type of an operand as it is, the object is
shared; where it makes a type, a new object is numbered.
-/

namespace ExprEmit

/-! ### By recursion -/

/-- The type of `*x` for an operand of type `t`; what points nowhere keeps its type. -/
def Ty.dereferenced (t : Ty) : Ty := t.pointee?.getD t

/-- The type of a call to something of type `t`; what is no function keeps its type. -/
def Ty.called (t : Ty) : Ty := t.returns?.getD t

/-- The type of a unary expression over an operand of type `t`. -/
def UnaryOp.resultType (op : UnaryOp) (t : Ty) : Ty :=
  match op with
  | .not => .ofPrimitive .bool
  | .addressOf => t.ptr
  | .deref => t.dereferenced
  | _ => t

/-- The static type of an expression. -/
def Expr.type : Expr → Ty
  | literal t _ => t.type
  | string _ => SharedType.ofStrings.type
  | access x => x.type.type
  | member _ f _ => f.type.type
  | call f _ => f.type.type.called
  | unary op x => op.resultType x.type
  | binary op l r =>
    if op.yieldsBool then .ofPrimitive .bool
    else if op = .comma then r.type
    else l.type
  | conditional _ p _ => p.type
  | cast t _ => t.type

/-! ### As objects -/

/-- A type object, the number of the next new one, and what was logged on the way. -/
structure Derived where
  type : SharedType
  fresh : Nat
  log : List Log.Record

namespace Derived

/-- The existing object `t`. -/
def share (t : SharedType) (fresh : Nat) : Derived := ⟨t, fresh, []⟩

/-- A new object of type `t`. -/
def make (t : Ty) (fresh : Nat) : Derived := ⟨⟨fresh, t⟩, fresh + 1, []⟩

/-- The type object of a unary expression over an operand of type `t`. -/
def ofUnary (op : UnaryOp) (t : SharedType) (fresh : Nat) : Derived :=
  match op with
  | .not => make (.ofPrimitive .bool) fresh
  | .addressOf => make t.type.ptr fresh
  | .deref =>
    match t.type.pointee? with
    | some u => make u fresh
    | none =>
      ⟨t, fresh, [⟨.warn, .typing, "dereferencing a non-pointer operand, keeping its type"⟩]⟩
  | _ => share t fresh

/-- The type object of a call to `f`. -/
def ofCall (f : Element) (fresh : Nat) : Derived :=
  match f.type.type.returns? with
  | some r => make r fresh
  | none =>
    ⟨f.type, fresh, [⟨.warn, .call, "call target " ++ f.name.qualified ++
      " is not a function, using its declared type"⟩]⟩

end Derived

/-- The outcome of resolving a type: the object and the cache that remembers it. -/
structure Resolved where
  type : SharedType
  cache : TypeCache
  /-- The number of the next new type object. -/
  fresh : Nat
  log : List Log.Record

namespace Resolved

/-- A derived type with the cache `c`. -/
def ofDerived (d : Derived) (c : TypeCache) : Resolved := ⟨d.type, c, d.fresh, d.log⟩

/-- The outcome for an expression from that for its `i`-th child, in the cache `c`. -/
def ofChild (r : Resolved) (c : TypeCache) (i : Nat) : Resolved :=
  { r with cache := c.withChild i r.cache }

/-- What `derive` makes of a resolved operand, which is the only child in the cache `c`. -/
def andDerive (r : Resolved) (c : TypeCache) (derive : SharedType → Nat → Derived) : Resolved :=
  let d := derive r.type r.fresh
  ⟨d.type, c.withChild 0 r.cache, d.fresh, r.log ++ d.log⟩

end Resolved

/-- The type that the cache remembers, or what `resolve` finds, which is then remembered. -/
def TypeCache.recall (c : TypeCache) (fresh : Nat) (resolve : Unit → Resolved) : Resolved :=
  match c.slot with
  | some t => ⟨t, c, fresh, []⟩
  | none =>
    let r := resolve ()
    { r with cache := r.cache.withSlot r.type }

/-- Finds the type object of an expression, through its cache. -/
def Expr.resolve : Expr → TypeCache → (fresh : Nat) → Resolved
  | literal t _, c, n => c.recall n fun _ => .ofDerived (.share t n) c
  | string _, c, n => c.recall n fun _ => .ofDerived (.share .ofStrings n) c
  | access x, c, n => c.recall n fun _ => .ofDerived (.share x.type n) c
  | member _ f _, c, n => c.recall n fun _ => .ofDerived (.share f.type n) c
  | call f _, c, n => c.recall n fun _ => .ofDerived (.ofCall f n) c
  | unary op x, c, n => c.recall n fun _ => (x.resolve (c.child 0) n).andDerive c (.ofUnary op)
  | binary op l r, c, n => c.recall n fun _ =>
    if op.yieldsBool then .ofDerived (.make (.ofPrimitive .bool) n) c
    else if op = .comma then (r.resolve (c.child 1) n).ofChild c 1
    else (l.resolve (c.child 0) n).ofChild c 0
  | conditional _ p _, c, n => c.recall n fun _ => (p.resolve (c.child 1) n).ofChild c 1
  | cast t _, c, n => c.recall n fun _ => .ofDerived (.share t n) c

end ExprEmit
