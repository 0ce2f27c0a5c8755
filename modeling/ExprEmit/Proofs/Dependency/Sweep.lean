import ExprEmit.Expr.Dependencies
import ExprEmit.Proofs.Dependency.OfType

/-!
# Sweeps

Registering the needs of an expression is put together from steps that offer dependencies and steps
that look at the type of the base of a member access.  `Sweeps` says how, whatever the registry
answers: what holds of every sweep is shown by induction over it, one case for each way of putting
steps together.

`Expr.requirements` lists what is offered, and `Expr.lookups` the bases that are looked at
(`Expr.sweeps_require`).
-/

namespace ExprEmit

/-! ### Lookups -/

/-- A place where the type of an expression is looked at. -/
structure Lookup where
  /-- What has been registered before, since the start of the sweep. -/
  before : List Dependency
  path : List Nat

namespace Lookup

/-- A lookup in a sweep that registers `ds` first. -/
def behind (ds : List Dependency) (l : Lookup) : Lookup := ⟨ds ++ l.before, l.path⟩

/-- A lookup in the `i`-th child, as one in the whole. -/
def inside (i : Nat) (l : Lookup) : Lookup := ⟨l.before, i :: l.path⟩

theorem behind_comp_behind (ds es : List Dependency) :
    behind ds ∘ behind es = behind (ds ++ es) := by
  funext l
  simp [behind]

end Lookup

namespace Expr

mutual

/-- The bases of member accesses in an expression, in the order in which they are looked at. -/
def lookups : Expr → List Lookup
  | literal _ _ | string _ | access _ => []
  | member base _ _ => base.lookups.map (.inside 0) ++ [⟨base.requirements, [0]⟩]
  | call f args => (argLookups 0 args).map (.behind (.element f :: f.type.type.requirements))
  | unary _ x => x.lookups.map (.inside 0)
  | binary _ l r =>
    l.lookups.map (.inside 0) ++ (r.lookups.map (.inside 1)).map (.behind l.requirements)
  | conditional c p n =>
    c.lookups.map (.inside 0) ++ (p.lookups.map (.inside 1)).map (.behind c.requirements) ++
      (n.lookups.map (.inside 2)).map (.behind (c.requirements ++ p.requirements))
  | cast t x => (x.lookups.map (.inside 0)).map (.behind t.type.requirements)

/-- The bases in the arguments of a call, the first of which is child `i`. -/
def argLookups : (i : Nat) → List Expr → List Lookup
  | _, [] => []
  | i, x :: xs => x.lookups.map (.inside i) ++ (argLookups (i + 1) xs).map (.behind x.requirements)

end

end Expr

/-! ### Steps of a sweep -/

variable {σ : Type} {k : Registry σ}

/-- Whether a step of a sweep over an expression is put together so as to offer `ds` and to look at
the types of `ls` on the way. -/
inductive Sweeps (k : Registry σ) :
    Expr → Step (Sweep σ) → List Dependency → List Lookup → Prop where
  | done {e : Expr} : Sweeps k e Step.done [] []
  | offers {e : Expr} (ds : List Dependency) : Sweeps k e (Sweep.onRegistry (k.offerAll ds)) ds []
  | andThen {e : Expr} {s t : Step (Sweep σ)} {ds es : List Dependency} {ls ms : List Lookup}
      (hs : Sweeps k e s ds ls) (ht : Sweeps k e t es ms) :
      Sweeps k e (s.andThen t) (ds ++ es) (ls ++ ms.map (.behind ds))
  /-- A step over a child is a step over the whole. -/
  | atChild {e x : Expr} {i : Nat} {s : Step (Sweep σ)} {ds : List Dependency} {ls : List Lookup}
      (hx : e.children[i]? = some x) (hs : Sweeps k x s ds ls) :
      Sweeps k e (Sweep.atChild i s) ds (ls.map (.inside i))
  /-- What goes on with the type of the expression looks at it first. -/
  | withType {e : Expr} {next : SharedType → Step (Sweep σ)} {ds : List Dependency}
      (hnext : ∀ t : SharedType, t.type = e.type → Sweeps k e (next t) ds []) :
      Sweeps k e (Sweep.withType e next) ds [⟨[], []⟩]

namespace Expr

/-- Registering the arguments `args` of a call, behind those before them. -/
theorem sweeps_requireArgs (f : Element) (before args : List Expr)
    (h : ∀ x ∈ args, Sweeps k x (x.require k) x.requirements x.lookups) :
    Sweeps k (call f (before ++ args)) (requireArgs k before.length args) (argRequirements args)
      (argLookups before.length args) := by
  induction args generalizing before with
  | nil => exact .done
  | cons x xs ih =>
    obtain ⟨hx, hxs⟩ := List.forall_mem_cons.mp h
    have hchild : (call f (before ++ x :: xs)).children[before.length]? = some x := by
      simp [children]
    have := ih (before ++ [x]) hxs
    rw [List.append_assoc, List.length_append] at this
    exact (Sweeps.atChild hchild hx).andThen this

/-- Registering the needs of an expression offers its requirements and looks at its lookups. -/
theorem sweeps_require (k : Registry σ) (e : Expr) :
    Sweeps k e (e.require k) e.requirements e.lookups := by
  induction e with
  | literal t v =>
    rw [require, Ty.require_eq_offerAll]
    exact .offers _
  | string v =>
    rw [require, Ty.require_eq_offerAll]
    exact .offers _
  | access x =>
    simp only [require, requirements, Step.all, Step.andThen_done, Ty.require_eq_offerAll,
      Acceptor.offer_eq_offerAll]
    exact (Sweeps.offers [.element x]).andThen (.offers _)
  | member b f a ih =>
    simp only [require, requirements, Step.all, Step.andThen_done, Ty.require_eq_offerAll,
      Ty.requireInside_eq_offerAll, List.append_assoc]
    -- the base has been registered by then, so its type may come from the cache
    have hinside : Sweeps k b
        (Sweep.withType b fun t => Sweep.onRegistry (k.offerAll t.type.insideRequirements))
        b.type.insideRequirements [⟨[], []⟩] := by
      refine .withType fun t ht => ?_
      rw [ht]
      exact .offers _
    have hmember := (Sweeps.atChild (e := member b f a) (i := 0) rfl ih).andThen
      ((Sweeps.atChild (i := 0) rfl hinside).andThen (.offers f.type.type.requirements))
    simpa [lookups, Lookup.inside, Lookup.behind] using hmember
  | call f args ih =>
    simp only [require, requirements, Step.all, Step.andThen_done, Ty.require_eq_offerAll,
      Acceptor.offer_eq_offerAll]
    have hcall := (Sweeps.offers (k := k) (e := call f args) [.element f]).andThen
      ((Sweeps.offers f.type.type.requirements).andThen (sweeps_requireArgs f [] args ih))
    simpa [lookups, Lookup.behind_comp_behind] using hcall
  | unary op x ih => exact .atChild rfl ih
  | binary op l r ihl ihr =>
    simp only [require, requirements, Step.all, Step.andThen_done]
    exact (Sweeps.atChild rfl ihl).andThen (.atChild rfl ihr)
  | conditional c p n ihc ihp ihn =>
    simp only [require, requirements, Step.all, Step.andThen_done, List.append_assoc]
    have hall := (Sweeps.atChild (e := conditional c p n) (i := 0) rfl ihc).andThen
      ((Sweeps.atChild (i := 1) rfl ihp).andThen (.atChild (i := 2) rfl ihn))
    simpa [lookups, Lookup.behind, Function.comp_def] using hall
  | cast t x ih =>
    simp only [require, requirements, Step.all, Step.andThen_done, Ty.require_eq_offerAll]
    exact (Sweeps.offers _).andThen (.atChild rfl ih)

end Expr

end ExprEmit
