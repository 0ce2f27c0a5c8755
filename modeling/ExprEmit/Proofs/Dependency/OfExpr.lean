import ExprEmit.Proofs.Dependency.Sweep
import ExprEmit.Proofs.Expr.Cache

/-!
# What an expression registers

Registering the needs of an expression works on a registry and on the type cache at once.  As long
as the cache fits the expression, the registry sees exactly the offers of `Expr.requirements`, in
order and up to the first refusal, and the cache still fits afterwards (`Expr.performs_require`).
-/

namespace ExprEmit

variable {σ : Type} {k : Registry σ}

/-- Whether a step of a sweep over the expression `e` does to the registry what offering `ds` does,
and keeps caches that fit `e`. -/
def Performs (k : Registry σ) (e : Expr) (s : Step (Sweep σ)) (ds : List Dependency) : Prop :=
  ∀ w, e.Fits w.cache →
    (s w).accepted = (k.offerAll ds w.registry).accepted ∧
      (s w).state.registry = (k.offerAll ds w.registry).state ∧ e.Fits (s w).state.cache

namespace Performs

variable {e x : Expr} {s t : Step (Sweep σ)} {ds es : List Dependency}

theorem done : Performs k e Step.done [] := fun _ hw => ⟨rfl, rfl, hw⟩

theorem onRegistry (k : Registry σ) (e : Expr) (ds : List Dependency) :
    Performs k e (Sweep.onRegistry (k.offerAll ds)) ds := fun _ hw => ⟨rfl, rfl, hw⟩

theorem andThen (hs : Performs k e s ds) (ht : Performs k e t es) :
    Performs k e (s.andThen t) (ds ++ es) := by
  intro w hw
  obtain ⟨haccept, hstate, hfits⟩ := hs w hw
  rw [Acceptor.offerAll_append]
  simp only [Step.andThen, haccept]
  -- the second step only runs if the first has been accepted
  split
  · obtain ⟨haccept', hstate', hfits'⟩ := ht (s w).state hfits
    rw [hstate] at haccept' hstate'
    exact ⟨haccept', hstate', hfits'⟩
  · exact ⟨haccept, hstate, hfits⟩

/-- A step over a child is a step over the whole. -/
theorem atChild {i : Nat} (hx : e.children[i]? = some x) (hs : Performs k x s ds) :
    Performs k e (Sweep.atChild i s) ds := by
  intro w hw
  obtain ⟨haccept, hstate, hfits⟩ := hs { w with cache := w.cache.child i } (hw.child hx)
  exact ⟨haccept, hstate, hw.withChild hx hfits⟩

/-- What goes on with the resolved type of an expression goes on with its type. -/
theorem withType {next : SharedType → Step (Sweep σ)}
    (h : ∀ t : SharedType, t.type = e.type → Performs k e (next t) ds) :
    Performs k e (Sweep.withType e next) ds := by
  intro w hw
  obtain ⟨htype, hfits⟩ := e.resolves_resolve hw w.fresh
  exact h _ htype { w with cache := (e.resolve w.cache w.fresh).cache, fresh := _ } hfits

end Performs

theorem Sweeps.performs {e : Expr} {s : Step (Sweep σ)} {ds : List Dependency} {ls : List Lookup}
    (h : Sweeps k e s ds ls) : Performs k e s ds := by
  induction h with
  | done => exact .done
  | offers ds => exact .onRegistry k _ ds
  | andThen _ _ ihs iht => exact ihs.andThen iht
  | atChild hx _ ih => exact ih.atChild hx
  | withType _ ih => exact .withType ih

/-- Registering the needs of an expression offers its requirements, whatever the registry. -/
theorem Expr.performs_require (k : Registry σ) (e : Expr) :
    Performs k e (e.require k) e.requirements :=
  (sweeps_require k e).performs

end ExprEmit
