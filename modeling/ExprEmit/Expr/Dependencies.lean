import ExprEmit.Dependency.OfType
import ExprEmit.Expr.Typing

/-!
# The dependencies of an expression

`Expr.require` registers what an expression needs, from left to right, and stops at the first refusal.
A member access needs the definition of the type it looks into, so the type of its base is resolved on
the way, through the type cache.

`Expr.requirements` lists the same dependencies without a registry or a cache.
-/

namespace ExprEmit

/-- What a sweep over an expression works on: a registry, the cache of the expression, and the number
of the next new type object. -/
structure Sweep (σ : Type) where
  registry : σ
  cache : TypeCache
  fresh : Nat

namespace Sweep

variable {σ : Type}

/-- A step of the registry as a step of the sweep. -/
def onRegistry (s : Step σ) : Step (Sweep σ) :=
  s.within registry fun r w => { w with registry := r }

/-- A sweep over the `i`-th child as a step of the sweep over the whole. -/
def atChild (i : Nat) (s : Step (Sweep σ)) : Step (Sweep σ) :=
  s.within (fun w => { w with cache := w.cache.child i })
    fun v w => { v with cache := w.cache.withChild i v.cache }

/-- Goes on with the type of the expression `e`, resolved through the cache. -/
def withType (e : Expr) (next : SharedType → Step (Sweep σ)) : Step (Sweep σ) := fun w =>
  let r := e.resolve w.cache w.fresh
  (Step.note r.log).andThen (next r.type) { w with cache := r.cache, fresh := r.fresh }

end Sweep

namespace Expr

open Sweep

mutual

/-- Registers what an expression needs. -/
def require {σ : Type} (k : Registry σ) : Expr → Step (Sweep σ)
  | literal t _ => onRegistry (t.type.require k)
  | string _ => onRegistry (SharedType.ofStrings.type.require k)
  | access x => Step.all [onRegistry (k.offer (.element x)), onRegistry (x.type.type.require k)]
  | member base f _ => Step.all [
      atChild 0 (base.require k),
      atChild 0 (withType base fun t => onRegistry (t.type.requireInside k)),
      onRegistry (f.type.type.require k)]
  | call f args => Step.all [
      onRegistry (k.offer (.element f)),
      onRegistry (f.type.type.require k),
      requireArgs k 0 args]
  | unary _ x => atChild 0 (x.require k)
  | binary _ l r => Step.all [atChild 0 (l.require k), atChild 1 (r.require k)]
  | conditional c p n =>
    Step.all [atChild 0 (c.require k), atChild 1 (p.require k), atChild 2 (n.require k)]
  | cast t x => Step.all [onRegistry (t.type.require k), atChild 0 (x.require k)]

/-- Registers what the arguments of a call need, the first of them being child `i`. -/
def requireArgs {σ : Type} (k : Registry σ) : (i : Nat) → List Expr → Step (Sweep σ)
  | _, [] => Step.done
  | i, x :: xs => (atChild i (x.require k)).andThen (requireArgs k (i + 1) xs)

end

mutual

/-- What an expression needs, in the order in which it is registered. -/
def requirements : Expr → List Dependency
  | literal t _ => t.type.requirements
  | string _ => SharedType.ofStrings.type.requirements
  | access x => .element x :: x.type.type.requirements
  | member base f _ =>
    base.requirements ++ base.type.insideRequirements ++ f.type.type.requirements
  | call f args => .element f :: f.type.type.requirements ++ argRequirements args
  | unary _ x => x.requirements
  | binary _ l r => l.requirements ++ r.requirements
  | conditional c p n => c.requirements ++ p.requirements ++ n.requirements
  | cast t x => t.type.requirements ++ x.requirements

/-- What the arguments of a call need. -/
def argRequirements : List Expr → List Dependency
  | [] => []
  | x :: xs => x.requirements ++ argRequirements xs

end

end Expr

end ExprEmit
