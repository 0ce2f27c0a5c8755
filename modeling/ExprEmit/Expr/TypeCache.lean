import ExprEmit.Expr.Basic

/-!
# Type caches

The types already found for an expression and the expressions inside it, in a tree of the same shape.
A place that the tree does not reach holds no type, so `TypeCache.empty` fits every expression.
-/

namespace ExprEmit

/-- The type found for an expression, if any, and the caches of its children. -/
inductive TypeCache where
  | node (slot : Option SharedType) (children : List TypeCache)
deriving Inhabited

namespace TypeCache

/-- The cache in which nothing has been found. -/
def empty : TypeCache := .node none []

/-- The type found for the expression itself. -/
def slot : TypeCache → Option SharedType
  | node t _ => t

/-- The caches of the children that have been reached. -/
def children : TypeCache → List TypeCache
  | node _ cs => cs

/-- Whether a type has been found for the expression itself. -/
def isResolved (c : TypeCache) : Bool := c.slot.isSome

/-- The cache of the `i`-th child. -/
def child (c : TypeCache) (i : Nat) : TypeCache := c.children.getD i empty

/-- The list `cs` with `x` at position `i`, filled up with empty caches. -/
def putAt (x : TypeCache) : Nat → List TypeCache → List TypeCache
  | 0, [] => [x]
  | 0, _ :: cs => x :: cs
  | i + 1, [] => empty :: putAt x i []
  | i + 1, c :: cs => c :: putAt x i cs

/-- The cache with `x` for its `i`-th child. -/
def withChild (c : TypeCache) (i : Nat) (x : TypeCache) : TypeCache :=
  .node c.slot (putAt x i c.children)

/-- The cache with the type `t` for the expression itself. -/
def withSlot (c : TypeCache) (t : SharedType) : TypeCache := .node (some t) c.children

/-- The cache of the expression reached by a path of child numbers. -/
def atPath (c : TypeCache) : List Nat → TypeCache
  | [] => c
  | i :: path => (c.child i).atPath path

/-- The cache with `x` for the expression reached by a path. -/
def withPath (c : TypeCache) : List Nat → TypeCache → TypeCache
  | [], x => x
  | i :: path, x => c.withChild i ((c.child i).withPath path x)

end TypeCache

end ExprEmit
